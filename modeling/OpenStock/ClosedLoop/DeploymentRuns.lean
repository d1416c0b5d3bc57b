import OpenStock.ClosedLoop.DeploymentRecords

namespace OpenStock.ClosedLoop.Deployments
open Function

/- Calls on a store, with changes by others in between. What validations and
verifications read is kept beside the files, for the statement alone. -/

section runs
variable [Sha256]

-- Others change anything but the program's own files.
def changed (tree others : Tree) : Tree where
  nodes := tree.nodes.filter (fun entry => decide (∃ own ∈ ownFolders, entry.1.head? = some own)) ++
    others.nodes.filter (fun entry => !decide (∃ own ∈ ownFolders, entry.1.head? = some own))
  distinct := by
    unfold Rows.Distinct
    rw [List.map_append,List.nodup_append]
    refine ⟨tree.distinct.sublist (List.filter_sublist.map _),others.distinct.sublist (List.filter_sublist.map _),?_⟩
    intro left inLeft right inRight same
    obtain ⟨one,member,rfl⟩ := List.mem_map.mp inLeft
    obtain ⟨other,otherMember,here⟩ := List.mem_map.mp inRight
    have own := (List.mem_filter.mp member).2
    have foreign := (List.mem_filter.mp otherMember).2
    rw [here,← same,own] at foreign
    cases foreign
  folders := others.folders

inductive Operation where
  | change (others : Tree)
  | validate (artifactId : Bytes) (artifactRoot : RequestedRoot) (correlationId : Option Bytes)
  | verify (candidate : Bytes) (artifactRoot : RequestedRoot) (candidateType : Option PromotableArtifactType) (deploymentId : Bytes)
  | promote (candidate deploymentId : Bytes) (previousCandidate : Option Bytes)
  | rollback (deploymentId reason : Bytes)

-- `validated` holds what the latest validation of a candidate read, when it
-- passed; `seen` what the latest verification of a deployment read.
structure World where
  tree : Tree
  validated : Identifier → Option Evidence
  seen : Identifier → Option Evidence
  rolledBack : Identifier → Bool

variable [Inspection]

def step (world : World) : Operation → World
  | .change others => {world with tree:=changed world.tree others}
  | .validate artifactId artifactRoot correlationId =>
    match validateResearchArtifact world.tree artifactId artifactRoot correlationId with
    | (after,none) => {world with tree:=after}
    | (after,some report) => {world with
        tree:=after
        validated:=update world.validated report.artifactId
          (if report.passed then report.artifactRoot.map (evidence world.tree) else none)}
  | .verify candidate artifactRoot candidateType deploymentId =>
    match verifyResearchArtifact world.tree candidate artifactRoot candidateType deploymentId with
    | (after,none) => {world with tree:=after}
    | (after,some verification) => {world with
        tree:=after
        seen:=update world.seen verification.deploymentId (verification.artifactRoot.map (evidence world.tree))
        rolledBack:=update world.rolledBack verification.deploymentId false}
  | .promote candidate deploymentId previousCandidate =>
    {world with tree:=(promoteResearchArtifact world.tree candidate deploymentId previousCandidate).1}
  | .rollback deploymentId reason =>
    match validateIdentifier deploymentId,rollbackResearchArtifact world.tree deploymentId reason with
    | some deployment,(after,some _) => {world with tree:=after, rolledBack:=update world.rolledBack deployment true}
    | _,(after,_) => {world with tree:=after}

def located (tree : Tree) (artifactRoot : Option Path) : Option Path :=
  artifactRoot.bind (fun path => (scopedDirectory tree path).toOption)

-- A promotion that returns: the files of the artifact are those that the latest
-- validation of the candidate read, passing, and those that the verification read;
-- and the deployment was verified after its last rollback.
def Promoted (world : World) : Operation → Prop
  | .promote candidate deploymentId previousCandidate =>
    ∀ state, (promoteResearchArtifact world.tree candidate deploymentId previousCandidate).2 = some state →
      ∃ root files, located (step world (.promote candidate deploymentId previousCandidate)).tree state.artifactRoot = some root ∧
        evidence (step world (.promote candidate deploymentId previousCandidate)).tree root = files ∧
        world.validated state.candidate = some files ∧ world.seen state.deploymentId = some files ∧
        world.rolledBack state.deploymentId = false
  | _ => True

-- The verified files have the digest that the verification holds.
def Stands (tree : Tree) (verification : PromotionVerification) : Prop :=
  ∃ root digest, located tree verification.artifactRoot = some root ∧ artifactDigest tree root = some digest ∧
    verification.artifactDigest = some digest

def byOthers : Operation → Bool
  | .change _ => true
  | _ => false

-- No call makes a passing verification fall by what it writes.
def StandsStill (world : World) (operation : Operation) : Prop :=
  byOthers operation = false → ∀ deploymentId verification, loadVerification world.tree deploymentId = .ok verification →
    verification.passed = true → Stands world.tree verification → Stands (step world operation).tree verification

def Trusted (world : World) : List Operation → Prop
  | [] => True
  | operation :: rest => Promoted world operation ∧ StandsStill world operation ∧ Trusted (step world operation) rest

/- What the callers and the files have to heed. -/

-- The directory that a call works on.
def workedOn (tree : Tree) : Operation → Option Path
  | .change _ => none
  | .validate artifactId artifactRoot _ =>
    (validateIdentifier artifactId).bind (fun artifactId => resolveRequestedRoot tree artifactId artifactRoot)
  | .verify candidate artifactRoot _ _ =>
    (validateIdentifier candidate).bind (fun candidate => (verificationRoot tree candidate artifactRoot).toOption.bind id)
  | .promote _ deploymentId _ => (validateIdentifier deploymentId).bind (fun deploymentId =>
      (loadVerification tree deploymentId).toOption.bind (fun verification => located tree verification.artifactRoot))
  | .rollback deploymentId _ => (validateIdentifier deploymentId).bind (fun deploymentId =>
      (loadDeployment tree deploymentId).toOption.bind (fun state => located tree state.artifactRoot))

-- Apart from the program's own folders, with no NUL byte in a file and no file
-- with the name of a marker below the root, where the markers are no links and
-- no link leads to one.
structure Sound (tree : Tree) (root : Path) : Prop where
  apart : Apart root
  framed : Framed tree root
  sheltered : Sheltered tree root
  markers : ∀ name ∈ excluded, ∀ target, tree.node (root ++ [name]) ≠ some (.link target)

-- A promotion is not asked for after a rollback without a verification in between.
def Reverified (world : World) : Operation → Prop
  | .promote _ deploymentId _ => ∀ deployment, validateIdentifier deploymentId = some deployment → world.rolledBack deployment = false
  | _ => True

structure Heeded (world : World) (operation : Operation) : Prop where
  worked : ∀ root, workedOn world.tree operation = some root → Sound world.tree root
  verified : ∀ deploymentId verification root, loadVerification world.tree deploymentId = .ok verification →
    verification.passed = true → located world.tree verification.artifactRoot = some root →
      Apart root ∧ Sheltered world.tree root
  reverified : Reverified world operation

def AllHeeded (world : World) : List Operation → Prop
  | [] => True
  | operation :: rest => Heeded world operation ∧ AllHeeded (step world operation) rest

-- A store without records.
def started (tree : Tree) : World := ⟨changed ⟨[],List.nodup_nil,[]⟩ tree,fun _ => none,fun _ => none,fun _ => false⟩

/- What holds in every state: a record that passed has the digest of what was read for it. -/

def Sealed (digest : Option Sha256.Digest) (files : Evidence) : Prop :=
  ∃ (tree : Tree) (root : Path) (taken : Sha256.Digest), Framed tree root ∧ artifactDigest tree root = some taken ∧
    digest = some taken ∧ evidence tree root = files

structure Kept (world : World) : Prop where
  tidy : Tidy world.tree
  reports : ∀ artifactId report, loadValidationReport world.tree artifactId = .ok report → report.passed = true →
    ∃ files, world.validated artifactId = some files ∧ Sealed report.artifactDigest files
  verifications : ∀ deploymentId verification, loadVerification world.tree deploymentId = .ok verification →
    verification.passed = true → ∃ files, world.seen deploymentId = some files ∧ Sealed verification.artifactDigest files

variable {tree : Tree} {digest : Sha256.Digest}

omit [Inspection] in
theorem sealed_digested {root found : Path} (read : digested tree (some root) = some (found,digest))
    (framed : Framed tree root) : found = root ∧ artifactDigest tree root = some digest ∧ Sealed (some digest) (evidence tree root) := by
  rw [digested,Option.bind_some] at read
  obtain ⟨taken,here,same⟩ := Option.map_eq_some_iff.mp read
  cases same
  exact ⟨rfl,here,tree,root,digest,framed,here,rfl,rfl⟩

omit [Inspection] in
theorem sealed_same {digest : Option Sha256.Digest} (one : Sealed digest left) (other : Sealed digest right) :
    left = right := by
  obtain ⟨tree,root,taken,framed,here,same,rfl⟩ := one
  obtain ⟨tree',root',taken',framed',here',same',rfl⟩ := other
  have equal : taken = taken' := Option.some.inj (same.symm.trans same')
  rw [← equal] at here'
  exact digest_evidence framed framed' here here'

theorem validate_effect (tree : Tree) (artifactId : Bytes) (root : RequestedRoot) (correlationId : Option Bytes) :
    validateResearchArtifact tree artifactId root correlationId = (tree,none) ∨
      ∃ identifier report after, validateIdentifier artifactId = some identifier ∧
        validateResearchArtifact tree artifactId root correlationId = (after,some report) ∧
        saveValidationReport tree report = some after ∧ report.artifactId = identifier ∧
        report.artifactDigest = (digested tree (resolveRequestedRoot tree identifier root)).map Prod.snd ∧
        report.artifactRoot = (digested tree (resolveRequestedRoot tree identifier root)).map Prod.fst ∧
        (report.passed = true → digested tree (resolveRequestedRoot tree identifier root) ≠ none) := by
  unfold validateResearchArtifact
  cases named : validateIdentifier artifactId with
  | none => exact .inl rfl
  | some identifier =>
    dsimp only
    cases made : validationReport tree identifier (digested tree (resolveRequestedRoot tree identifier root)) correlationId with
    | none => exact .inl rfl
    | some report =>
      dsimp only
      cases saved : saveValidationReport tree report with
      | none => exact .inl rfl
      | some after =>
        right
        obtain ⟨correlation,_,rfl⟩ := Option.map_eq_some_iff.mp made
        refine ⟨identifier,_,after,rfl,rfl,saved,rfl,rfl,rfl,?_⟩
        intro passed unread
        dsimp only at passed
        rw [unread] at passed
        cases passed

theorem verify_effect (tree : Tree) (candidate : Bytes) (root : RequestedRoot) (candidateType : Option PromotableArtifactType)
    (deploymentId : Bytes) : verifyResearchArtifact tree candidate root candidateType deploymentId = (tree,none) ∨
      ∃ named deployment verification after, validateIdentifier candidate = some named ∧
        validateIdentifier deploymentId = some deployment ∧
        verifyResearchArtifact tree candidate root candidateType deploymentId = (after,some verification) ∧
        writeModel tree (verificationPath deployment) (.verification verification) = some after ∧
        verification.deploymentId = deployment ∧
        verification.artifactDigest = (digested tree ((verificationRoot tree named root).toOption.bind id)).map Prod.snd ∧
        verification.artifactRoot = (digested tree ((verificationRoot tree named root).toOption.bind id)).map Prod.fst ∧
        (verification.passed = true → digested tree ((verificationRoot tree named root).toOption.bind id) ≠ none) := by
  unfold verifyResearchArtifact
  cases named : validateIdentifier candidate with
  | none => exact .inl rfl
  | some identifier =>
    cases drawn : validateIdentifier deploymentId with
    | none => exact .inl rfl
    | some deployment =>
      dsimp only
      split
      · exact .inl rfl
      · cases made : judged tree identifier deployment (digested tree ((verificationRoot tree identifier root).toOption.bind id))
          candidateType with
        | none => exact .inl rfl
        | some verification =>
          dsimp only
          cases saved : writeModel tree (verificationPath deployment) (.verification verification) with
          | none => exact .inl rfl
          | some after =>
            right
            unfold judged at made
            split at made
            · cases made
            · split at made
              · cases made
              · rename_i artifactType _
                obtain ⟨correlation,_,rfl⟩ := Option.map_eq_some_iff.mp made
                refine ⟨identifier,deployment,_,after,rfl,rfl,rfl,saved,rfl,rfl,rfl,?_⟩
                intro passed unread
                dsimp only at passed
                rw [unread] at passed
                unfold verificationPassed at passed
                split at passed
                · rename_i absent
                  cases absent
                · cases passed

/- What each operation keeps. -/

variable {world : World} {root : RequestedRoot} {correlationId : Option Bytes} {identifier : Identifier} {artifactId : Bytes}

omit [Inspection] in
theorem workedOn_validate
    (heeded : Heeded world (.validate artifactId root correlationId)) (named : validateIdentifier artifactId = some identifier)
    (here : resolveRequestedRoot world.tree identifier root = some found) : Sound world.tree found := by
  apply heeded.worked
  simp [workedOn,named,here]

variable {candidate deploymentId : Bytes} {candidateType : Option PromotableArtifactType}

omit [Inspection] in
theorem workedOn_verify
    (heeded : Heeded world (.verify candidate root candidateType deploymentId)) (named : validateIdentifier candidate = some identifier)
    (here : (verificationRoot world.tree identifier root).toOption.bind id = some found) : Sound world.tree found := by
  apply heeded.worked
  rw [workedOn,named,Option.bind_some,here]

-- The files and the digest that a record was made from.
omit [Inspection] in
theorem read_sealed (sound : ∀ root, requested = some root → Sound tree root)
    (read : digested tree requested ≠ none) : ∃ files, ((digested tree requested).map Prod.fst).map (evidence tree) = some files ∧
      Sealed ((digested tree requested).map Prod.snd) files := by
  cases here : digested tree requested with
  | none => exact absurd here read
  | some found =>
    obtain ⟨place,digest⟩ := found
    cases asked : requested with
    | none =>
      rw [asked] at here
      cases here
    | some root =>
      rw [asked] at here
      obtain ⟨rfl,_,sealed'⟩ := sealed_digested here (sound root asked).framed
      exact ⟨_,rfl,sealed'⟩

omit [Inspection] in
theorem changed_node (tree others : Tree) {own name : Name} (inside : own ∈ ownFolders) :
    (changed tree others).node [own,name] = tree.node [own,name] ∧ (changed tree others).node [own] = tree.node [own] := by
  have held : ∀ path : Path, path.head? = some own → (changed tree others).node path = tree.node path := by
    intro path first
    apply Option.ext
    intro node
    rw [node_iff,node_iff,changed,List.mem_append,List.mem_filter,List.mem_filter]
    simp [first,inside]
  exact ⟨held _ rfl,held _ rfl⟩

omit [Inspection] in
theorem changed_tidy (tidy : Tidy tree) (others : Tree) : Tidy (changed tree others) := by
  intro own inside
  constructor
  · rw [(@changed_node _ tree others own own inside).2]
    exact (tidy own inside).1
  · intro name
    rw [FileTree.Writable,(changed_node tree others inside).1]
    exact (tidy own inside).2 name

variable {select : Record → Option α} {model : α}

omit [Inspection] in
theorem changed_load (tidy : Tidy tree) (others : Tree) (own : ∃ own ∈ ownFolders, ∃ name, path = [own,name])
    (loaded : loadModel (changed tree others) path select = .ok model) : loadModel tree path select = .ok model := by
  obtain ⟨content,record,stored,rest⟩ := (load_iff (changed_tidy tidy others) own select model).mp loaded
  obtain ⟨folder,inside,name,rfl⟩ := own
  rw [(changed_node tree others inside).1] at stored
  exact (load_iff tidy ⟨folder,inside,name,rfl⟩ select model).mpr ⟨content,record,stored,rest⟩

theorem validate_kept (kept : Kept world) (heeded : Heeded world (.validate artifactId root correlationId)) :
    Kept (step world (.validate artifactId root correlationId)) ∧
      ((step world (.validate artifactId root correlationId)).tree = world.tree ∨ ∃ path record place,
        (∃ own ∈ ownFolders, ∃ name, path = [own,name]) ∧
          Saved world.tree path record place (step world (.validate artifactId root correlationId)).tree) := by
  dsimp only [step]
  rcases validate_effect world.tree artifactId root correlationId with same | ⟨identifier,report,after,named,shape,saved,rfl,digest,place,read⟩
  · rw [same]
    exact ⟨kept,.inl rfl⟩
  · rw [shape]
    have sound : ∀ found, resolveRequestedRoot world.tree report.artifactId root = some found → Sound world.tree found :=
      fun found here => workedOn_validate heeded named here
    have placed : ∀ found, report.artifactRoot = some found → Sound world.tree found := by
      intro found here
      rw [place] at here
      obtain ⟨⟨_,_⟩,taken,rfl⟩ := Option.map_eq_some_iff.mp here
      obtain ⟨asked,resolved,hashed⟩ := Option.bind_eq_some_iff.mp taken
      obtain ⟨_,_,same⟩ := Option.map_eq_some_iff.mp hashed
      cases same
      exact sound _ resolved
    have stored := report_saved kept.tidy (fun found here => ⟨(placed found here).apart,(placed found here).markers⟩) saved
    have own := report_own report.artifactId
    refine ⟨⟨saved_tidy kept.tidy own stored,?_,?_⟩,.inr ⟨_,_,_,own,stored⟩⟩
    · intro sought found loaded passed
      rcases saved_load kept.tidy own (report_own sought) stored loaded with ⟨same,selected⟩ | ⟨other,old⟩
      · cases reportPath_injective same
        cases selected
        obtain ⟨files,readFiles,sealed'⟩ := read_sealed sound (read passed)
        refine ⟨files,?_,?_⟩
        · dsimp only
          rw [update_self,if_pos passed,place]
          exact readFiles
        · rw [digest]
          exact sealed'
      · have differs : sought ≠ report.artifactId := fun same => other (by rw [same])
        dsimp only
        rw [update_of_ne differs]
        exact kept.reports sought found old passed
    · intro sought found loaded passed
      rcases saved_load kept.tidy own (verification_own sought) stored loaded with ⟨_,selected⟩ | ⟨_,old⟩
      · cases selected
      · exact kept.verifications sought found old passed

theorem verify_kept (kept : Kept world) (heeded : Heeded world (.verify candidate root candidateType deploymentId)) :
    Kept (step world (.verify candidate root candidateType deploymentId)) ∧
      ((step world (.verify candidate root candidateType deploymentId)).tree = world.tree ∨ ∃ path record place,
        (∃ own ∈ ownFolders, ∃ name, path = [own,name]) ∧
          Saved world.tree path record place (step world (.verify candidate root candidateType deploymentId)).tree) := by
  dsimp only [step]
  rcases verify_effect world.tree candidate root candidateType deploymentId with
    same | ⟨identifier,deployment,verification,after,named,drawn,shape,written,rfl,digest,place,read⟩
  · rw [same]
    exact ⟨kept,.inl rfl⟩
  · rw [shape]
    have own := verification_own verification.deploymentId
    have stored : Saved world.tree (verificationPath verification.deploymentId) (.verification verification) none after :=
      ⟨after,writeModel_own kept.tidy own written,.inl rfl⟩
    refine ⟨⟨saved_tidy kept.tidy own stored,?_,?_⟩,.inr ⟨_,_,_,own,stored⟩⟩
    · intro sought found loaded passed
      rcases saved_load kept.tidy own (report_own sought) stored loaded with ⟨_,selected⟩ | ⟨_,old⟩
      · cases selected
      · exact kept.reports sought found old passed
    · intro sought found loaded passed
      rcases saved_load kept.tidy own (verification_own sought) stored loaded with ⟨same,selected⟩ | ⟨other,old⟩
      · cases verificationPath_injective same
        cases selected
        obtain ⟨files,readFiles,sealed'⟩ := read_sealed (fun found here => workedOn_verify heeded named here) (read passed)
        refine ⟨files,?_,?_⟩
        · dsimp only
          rw [update_self,place]
          exact readFiles
        · rw [digest]
          exact sealed'
      · have differs : sought ≠ verification.deploymentId := fun same => other (by rw [same])
        dsimp only
        rw [update_of_ne differs]
        exact kept.verifications sought found old passed

variable {state : DeploymentState}

-- A deployment record is neither a report nor a verification.
theorem deployment_kept (kept : Kept world)
    (saved : Saved world.tree (deploymentPath state.deploymentId) (.deployment state) place after) (turned : Identifier → Bool) :
    Kept {world with tree:=after, rolledBack:=turned} := by
  have own := deployment_own state.deploymentId
  refine ⟨saved_tidy kept.tidy own saved,?_,?_⟩
  · intro sought found loaded passed
    rcases saved_load kept.tidy own (report_own sought) saved loaded with ⟨_,selected⟩ | ⟨_,old⟩
    · cases selected
    · exact kept.reports sought found old passed
  · intro sought found loaded passed
    rcases saved_load kept.tidy own (verification_own sought) saved loaded with ⟨_,selected⟩ | ⟨_,old⟩
    · cases selected
    · exact kept.verifications sought found old passed

-- What a promotion has checked when it records.
structure Passed (tree : Tree) (candidate deploymentId : Identifier) (verification : PromotionVerification) (root : Path)
    (digest : Sha256.Digest) : Prop where
  stored : loadVerification tree deploymentId = .ok verification
  passed : verification.passed = true
  found : ∃ path, verification.artifactRoot = some path ∧ scopedDirectory tree path = .ok root
  report : ∃ report, loadValidationReport tree candidate = .ok report ∧ report.passed = true ∧
    report.artifactDigest = verification.artifactDigest
  current : artifactDigest tree root = some digest
  same : verification.artifactDigest = some digest

variable {verification : PromotionVerification}

theorem gate_some {candidate deploymentId : Identifier} (granted : gate tree candidate deploymentId = some verification) :
    ∃ root digest, Passed tree candidate deploymentId verification root digest := by
  unfold gate at granted
  split at granted
  · cases granted
  · rename_i found stored
    split at granted
    · cases granted
    · rename_i fits
      split at granted
      · rename_i root placed
        split at granted
        · cases granted
        · rename_i report loaded
          split at granted
          · cases granted
          · rename_i fresh
            split at granted
            · cases granted
            · rename_i digest current
              split at granted
              · cases granted
              · rename_i unchanged
                cases granted
                obtain ⟨path,asked,scope⟩ := Option.map_eq_some_iff.mp placed
                simp only [not_or,Decidable.not_not,Bool.not_eq_false] at fits fresh unchanged
                exact ⟨root,digest,stored,fits.2,⟨path,asked,scope⟩,⟨report,loaded,fresh.1,fresh.2.1⟩,current,unchanged.1⟩
      · cases granted

theorem promote_effect (tree : Tree) (candidate deploymentId : Bytes) (previous : Option Bytes) :
    promoteResearchArtifact tree candidate deploymentId previous = (tree,none) ∨
      ∃ named deployment verification root digest state, validateIdentifier deploymentId = some deployment ∧
        Passed tree named deployment verification root digest ∧ state.candidate = named ∧ state.deploymentId = deployment ∧
        state.artifactRoot = verification.artifactRoot ∧
        promoteResearchArtifact tree candidate deploymentId previous = recordDeployment tree state [] := by
  unfold promoteResearchArtifact
  split
  · rename_i named deployment _ drawn
    split
    · exact .inl rfl
    · rename_i verification granted
      obtain ⟨root,digest,passed⟩ := gate_some granted
      split
      · exact .inl rfl
      · exact .inr ⟨named,deployment,verification,root,digest,_,drawn,passed,rfl,rfl,rfl,rfl⟩
  · exact .inl rfl

theorem rollback_effect (tree : Tree) (deploymentId reason : Bytes) :
    rollbackResearchArtifact tree deploymentId reason = (tree,none) ∨
      ∃ deployment stored state, validateIdentifier deploymentId = some deployment ∧ loadDeployment tree deployment = .ok stored ∧
        state.artifactRoot = stored.artifactRoot ∧
        rollbackResearchArtifact tree deploymentId reason = recordDeployment tree state reason := by
  unfold rollbackResearchArtifact
  split
  · exact .inl rfl
  · rename_i deployment drawn
    split
    · exact .inl rfl
    · rename_i stored loaded
      exact .inr ⟨deployment,stored,{stored with status:=.rolledBack, rollbackReason:=some reason},drawn,loaded,rfl,rfl⟩

omit [Inspection] in
theorem located_path {root path : Path} (asked : artifactRoot = some path)
    (scope : scopedDirectory tree path = .ok root) : located tree artifactRoot = some root := by
  rw [located,asked,Option.bind_some,scope]
  rfl

omit [Inspection] in
theorem loaded_isDir (tidy : Tidy tree) (inside : own ∈ ownFolders)
    (loaded : loadModel tree [own,name] select = .ok model) : tree.isDir [own] = true := by
  obtain ⟨_,_,stored,_⟩ := (load_iff tidy ⟨own,inside,name,rfl⟩ select model).mp loaded
  exact own_isDir stored

theorem promote_saved (kept : Kept world) (heeded : Heeded world (.promote candidate deploymentId previous)) {root : Path}
    (drawn : validateIdentifier deploymentId = some deployment) (passed : Passed world.tree named deployment verification root digest)
    (same : state.artifactRoot = verification.artifactRoot) :
    Sound world.tree root ∧ (recordDeployment world.tree state [] = (world.tree,none) ∨
      ((recordDeployment world.tree state []).2 = none ∨ (recordDeployment world.tree state []).2 = some state) ∧
        Saved world.tree (deploymentPath state.deploymentId) (.deployment state) (some root) (recordDeployment world.tree state []).1) := by
  obtain ⟨path,asked,scope⟩ := passed.found
  have sound : Sound world.tree root := by
    apply heeded.worked
    rw [workedOn,drawn,Option.bind_some,passed.stored]
    exact located_path asked scope
  refine ⟨sound,?_⟩
  have folder := loaded_isDir kept.tidy (by simp [ownFolders]) passed.stored
  have plain : ∀ other place, state.artifactRoot = some other → scopedDirectory world.tree other = .ok place →
      Apart place ∧ ∀ name ∈ excluded, ∀ target, world.tree.node (place ++ [name]) ≠ some (.link target) := by
    intro other place here resolved
    rw [same,asked] at here
    cases here
    rw [scope] at resolved
    cases resolved
    exact ⟨sound.apart,sound.markers⟩
  have placed := @deployment_saved _ _ _ _ [] kept.tidy folder plain
  rw [same,asked,Option.bind_some,scope] at placed
  exact placed

theorem rollback_saved {deploymentId reason : Bytes} (kept : Kept world)
    (heeded : Heeded world (.rollback deploymentId reason)) {stored state : DeploymentState}
    (drawn : validateIdentifier deploymentId = some deployment) (loaded : loadDeployment world.tree deployment = .ok stored)
    (same : state.artifactRoot = stored.artifactRoot) : recordDeployment world.tree state reason = (world.tree,none) ∨ ∃ place,
      Saved world.tree (deploymentPath state.deploymentId) (.deployment state) place (recordDeployment world.tree state reason).1 := by
  have folder := loaded_isDir kept.tidy (by simp [ownFolders]) loaded
  have plain : ∀ path root, state.artifactRoot = some path → scopedDirectory world.tree path = .ok root →
      Apart root ∧ ∀ name ∈ excluded, ∀ target, world.tree.node (root ++ [name]) ≠ some (.link target) := by
    intro path root here scope
    rw [same] at here
    have sound : Sound world.tree root := by
      apply heeded.worked
      rw [workedOn,drawn,Option.bind_some,loaded]
      exact located_path here scope
    exact ⟨sound.apart,sound.markers⟩
  rcases @deployment_saved _ _ _ _ reason kept.tidy folder plain with none | ⟨_,saved⟩
  · exact .inl none
  · exact .inr ⟨_,saved⟩

variable {operation : Operation}

-- A step leaves the invariant, and writes at most one record and one marker.
theorem step_kept (kept : Kept world) (heeded : Heeded world operation) :
    Kept (step world operation) ∧ (byOthers operation = true ∨ (step world operation).tree = world.tree ∨
      ∃ path record place, (∃ own ∈ ownFolders, ∃ name, path = [own,name]) ∧
        Saved world.tree path record place (step world operation).tree) := by
  cases operation with
  | change others =>
    refine ⟨⟨changed_tidy kept.tidy others,?_,?_⟩,.inl rfl⟩
    · intro sought report loaded passed
      exact kept.reports sought report (changed_load kept.tidy others (report_own sought) loaded) passed
    · intro sought verification loaded passed
      exact kept.verifications sought verification (changed_load kept.tidy others (verification_own sought) loaded) passed
  | validate artifactId root correlationId =>
    obtain ⟨next,writes⟩ := validate_kept kept heeded
    exact ⟨next,.inr writes⟩
  | verify candidate root candidateType deploymentId =>
    obtain ⟨next,writes⟩ := verify_kept kept heeded
    exact ⟨next,.inr writes⟩
  | promote candidate deploymentId previous =>
    dsimp only [step]
    rcases promote_effect world.tree candidate deploymentId previous with
      same | ⟨named,deployment,verification,root,digest,state,drawn,passed,_,_,artifact,shape⟩
    · rw [same]
      exact ⟨kept,.inr (.inl rfl)⟩
    · rw [shape]
      obtain ⟨_,same | ⟨_,saved⟩⟩ := promote_saved kept heeded drawn passed artifact
      · rw [same]
        exact ⟨kept,.inr (.inl rfl)⟩
      · exact ⟨deployment_kept kept saved world.rolledBack,.inr (.inr ⟨_,_,_,deployment_own _,saved⟩)⟩
  | rollback deploymentId reason =>
    dsimp only [step]
    rcases rollback_effect world.tree deploymentId reason with same | ⟨deployment,stored,state,drawn,loaded,artifact,shape⟩
    · rw [same]
      cases validateIdentifier deploymentId <;> exact ⟨kept,.inr (.inl rfl)⟩
    · rw [drawn,shape]
      rcases rollback_saved kept heeded drawn loaded artifact with same | ⟨place,saved⟩
      · rw [same]
        exact ⟨kept,.inr (.inl rfl)⟩
      · generalize recordDeployment world.tree state reason = recorded at saved ⊢
        obtain ⟨after,result⟩ := recorded
        cases result with
        | none => exact ⟨deployment_kept kept saved world.rolledBack,.inr (.inr ⟨_,_,_,deployment_own _,saved⟩)⟩
        | some state => exact ⟨deployment_kept kept saved _,.inr (.inr ⟨_,_,_,deployment_own _,saved⟩)⟩

theorem step_stands (kept : Kept world) (heeded : Heeded world operation) : StandsStill world operation := by
  intro ours deploymentId verification loaded passed stands
  rcases (step_kept kept heeded).2 with others | same | ⟨path,record,place,own,saved⟩
  · rw [ours] at others
    cases others
  · rw [same]
    exact stands
  · obtain ⟨root,digest,here,taken,held⟩ := stands
    obtain ⟨apart,sheltered⟩ := heeded.verified deploymentId verification root loaded passed here
    refine ⟨root,digest,?_,saved_digest own saved apart sheltered taken,held⟩
    obtain ⟨asked,path',scope⟩ := Option.bind_eq_some_iff.mp here
    cases scoped' : scopedDirectory world.tree asked with
    | error refused =>
      rw [scoped'] at scope
      cases scope
    | ok found =>
      rw [scoped'] at scope
      cases scope
      exact located_path path' (saved_located saved scoped')

theorem step_promoted (kept : Kept world) (heeded : Heeded world operation) : Promoted world operation := by
  cases operation with
  | promote candidate deploymentId previous =>
    intro state returned
    dsimp only [step]
    rcases promote_effect world.tree candidate deploymentId previous with
      same | ⟨named,deployment,verification,root,digest,made,drawn,passed,rfl,rfl,artifact,shape⟩
    · rw [same] at returned
      cases returned
    · rw [shape] at returned ⊢
      obtain ⟨sound,same | ⟨result,saved⟩⟩ := promote_saved kept heeded drawn passed artifact
      · rw [same] at returned
        cases returned
      · have equal : made = state := by
          rcases result with none | some'
          · rw [none] at returned
            cases returned
          · rw [some'] at returned
            exact Option.some.inj returned
        cases equal
        obtain ⟨path,asked,scope⟩ := passed.found
        obtain ⟨report,loaded,good,digests⟩ := passed.report
        obtain ⟨read,validated,readSealed⟩ := kept.reports _ report loaded good
        obtain ⟨seen,verified,seenSealed⟩ := kept.verifications _ verification passed.stored passed.passed
        have current : Sealed verification.artifactDigest (evidence world.tree root) :=
          ⟨world.tree,root,digest,sound.framed,passed.current,passed.same,rfl⟩
        rw [digests] at readSealed
        have unchanged := saved_evidence (deployment_own _) saved sound.apart sound.sheltered sound.framed (digest_confined passed.current)
        refine ⟨root,evidence world.tree root,?_,unchanged,?_,?_,heeded.reverified _ drawn⟩
        · rw [artifact]
          exact located_path asked (saved_located saved scope)
        · rw [validated,sealed_same readSealed current]
        · rw [verified,sealed_same seenSealed current]
  | change others => trivial
  | validate artifactId root correlationId => trivial
  | verify candidate root candidateType deploymentId => trivial
  | rollback deploymentId reason => trivial

theorem kept_trusted (kept : Kept world) (heeded : AllHeeded world operations) : Trusted world operations := by
  induction operations generalizing world with
  | nil => trivial
  | cons operation rest ih =>
    obtain ⟨now,later⟩ := heeded
    exact ⟨step_promoted kept now,step_stands kept now,ih (step_kept kept now).1 later⟩

omit [Inspection] in
theorem started_kept (tree : Tree) : Kept (started tree) := by
  have empty : ∀ own ∈ ownFolders, (started tree).tree.node [own] = none ∧ ∀ name, (started tree).tree.node [own,name] = none := by
    intro own inside
    exact ⟨(@changed_node _ _ tree own own inside).2,fun name => (changed_node _ tree inside).1⟩
  have tidy : Tidy (started tree).tree := fun own inside => ⟨(empty own inside).1,fun name => .inl ((empty own inside).2 name)⟩
  refine ⟨tidy,?_,?_⟩
  · intro sought report loaded
    obtain ⟨content,_,stored,_⟩ := (load_iff tidy (report_own sought) _ report).mp loaded
    rw [reportPath,(empty _ (by simp [ownFolders])).2] at stored
    cases stored
  · intro sought verification loaded
    obtain ⟨content,_,stored,_⟩ := (load_iff tidy (verification_own sought) _ verification).mp loaded
    rw [verificationPath,(empty _ (by simp [ownFolders])).2] at stored
    cases stored

-- Where every step heeds, promotions rest on what was validated and verified; and
-- a digest tells framed trees apart.
theorem promotions_trusted_when : (∀ tree operations, AllHeeded (started tree) operations → Trusted (started tree) operations) ∧
      ∀ (left right : Tree) (leftRoot rightRoot : Path) (digest : Sha256.Digest), Framed left leftRoot → Framed right rightRoot →
        artifactDigest left leftRoot = some digest → artifactDigest right rightRoot = some digest →
          evidence left leftRoot = evidence right rightRoot := by
  constructor
  · intro tree operations heeded
    exact kept_trusted (started_kept tree) heeded
  · intro left right leftRoot rightRoot digest leftFramed rightFramed leftTaken rightTaken
    exact digest_evidence leftFramed rightFramed leftTaken rightTaken

-- Trees of files alone, of which a root's are framed.
def plainEntry (root : Path) (entry : Path × Node Record) : Bool := match entry.2 with
  | .file content =>
    (!FileTree.below root entry.1 ||
      if isExcluded entry.1 then isMarker (entry.1.drop root.length) else decide (0 ∉ content.bytes)) &&
    (content.record.bind Record.toVerification).all (fun verification => decide (verification.artifactRoot = some root))
  | _ => false

omit [Inspection] in
theorem plain_sound {root : Path} (plain : tree.nodes.all (plainEntry root) = true) (apart : Apart root) :
    Sound tree root ∧ ∀ other, Sheltered tree other := by
  have files : ∀ path node, (path,node) ∈ tree.nodes → plainEntry root (path,node) = true :=
    fun path node member => List.all_eq_true.mp plain _ member
  have unlinked : ∀ path target, (path,.link target) ∉ tree.nodes := by
    intro path target member
    cases files path _ member
  refine ⟨⟨apart,⟨?_,?_⟩,?_,?_⟩,?_⟩
  · intro path node member some' named
    have checked := files _ _ member
    unfold plainEntry at checked
    cases node with
    | file content =>
      dsimp only at checked
      rw [below_append root some',excluded_drop root path some',named,List.drop_left] at checked
      simp only [Bool.not_true,Bool.false_or,if_true,Bool.and_eq_true] at checked
      exact checked.1
    | link target | escaping | unreadable => cases checked
  · intro path node bytes member some' shown read
    have checked := files _ _ member
    unfold plainEntry at checked
    cases node with
    | file content =>
      dsimp only at checked
      rw [below_append root some',excluded_drop root path some',shown] at checked
      simp only [Bool.not_true,Bool.false_or,Bool.false_eq_true,if_false,Bool.and_eq_true,decide_eq_true_eq] at checked
      cases read
      exact checked.1
    | link target | escaping | unreadable => cases checked
  · intro entry target member
    exact absurd member (unlinked entry target)
  · intro name _ target stored
    exact unlinked _ target ((node_iff _ _ _).mp stored)
  · intro other entry target member
    exact absurd member (unlinked entry target)

omit [Inspection] in
theorem plain_heeded {root : Path} (plain : world.tree.nodes.all (plainEntry root) = true) (apart : Apart root)
    (folders : ownFolders.all (fun own => (world.tree.node [own]).isNone) = true)
    (working : workedOn world.tree operation = some root) (here : located world.tree (some root) = some root)
    (reverified : Reverified world operation) : Heeded world operation := by
  obtain ⟨sound,sheltered⟩ := plain_sound plain apart
  have tidy : Tidy world.tree := by
    intro own inside
    refine ⟨Option.isNone_iff_eq_none.mp (List.all_eq_true.mp folders own inside),?_⟩
    intro name
    cases stored : world.tree.node [own,name] with
    | none => exact .inl stored
    | some node =>
      have checked := List.all_eq_true.mp plain _ ((node_iff _ _ _).mp stored)
      cases node with
      | file content => exact .inr ⟨content,stored⟩
      | link target | escaping | unreadable => cases checked
  refine ⟨?_,?_,reverified⟩
  · intro found work
    rw [working] at work
    cases work
    exact sound
  · intro deploymentId verification found loaded _ place
    refine ⟨?_,sheltered found⟩
    obtain ⟨content,record,stored,parsed,selected⟩ := (load_iff tidy (verification_own deploymentId) _ verification).mp loaded
    have checked := List.all_eq_true.mp plain _ ((node_iff _ _ _).mp stored)
    unfold plainEntry at checked
    dsimp only at checked
    rw [parsed,Option.bind_some,selected] at checked
    have same : verification.artifactRoot = some root := by simpa using (Bool.and_eq_true_iff.mp checked).2
    rw [same,here] at place
    cases place
    exact apart

end runs

section sample

@[reducible] def plainSha : Sha256 := ⟨Bytes,inferInstance,id,Function.injective_id⟩

-- Checks that all pass, records and markers of no bytes.
@[reducible] def passing : @Inspection plainSha :=
  let := plainSha
  ⟨fun _ _ _ => true,fun _ _ _ => ascii "c",fun _ _ => some (some .featureDefinition),fun _ _ _ => true,fun _ => [],fun _ _ => []⟩

def subName : Name := ⟨ascii "sub",by decide⟩
def codeName : Name := ⟨ascii "generated_code.py",by decide⟩
def candidateName : Name := ⟨ascii "a",by decide⟩

def artifact : Path := [researchName,candidateName]

-- The code of an artifact, and maybe a file of a marker's name in a directory of its own.
def sampleTree : @Tree plainSha :=
  let := plainSha
  ⟨[(artifact ++ [codeName],.file ⟨[1],none⟩)],List.nodup_singleton _,[]⟩

def nestedTree (nested : Bytes) : @Tree plainSha :=
  let := plainSha
  ⟨[(artifact ++ [codeName],.file ⟨[1],none⟩),(artifact ++ [subName,promotionName],.file ⟨nested,none⟩)],by
    change [artifact ++ [codeName],artifact ++ [subName,promotionName]].Nodup
    decide,[]⟩

def checked : List (@Operation plainSha) :=
  let := plainSha
  [.validate (ascii "a") .absent none,.verify (ascii "a") .absent none (ascii "d")]

def promoted : @Operation plainSha :=
  let := plainSha
  .promote (ascii "a") (ascii "d") none

def candidateId : Identifier := ⟨ascii "a",by decide⟩
def deploymentId' : Identifier := ⟨ascii "d",by decide⟩

theorem promotions_trusted_sample : letI := plainSha
    letI := passing
    Trusted (started sampleTree) (checked ++ [promoted]) := by
  let := plainSha
  let := passing
  have apart : Apart artifact := ⟨researchName,rfl,by decide⟩
  apply promotions_trusted_when.1 sampleTree (checked ++ [promoted])
  refine ⟨?_,?_,?_,trivial⟩
  · exact plain_heeded (by decide) apart (by decide) (by decide) (by decide) trivial
  · exact plain_heeded (by decide) apart (by decide) (by decide) (by decide) trivial
  · refine plain_heeded (by decide) apart (by decide) (by decide) (by decide) ?_
    intro deployment named
    have drawn : validateIdentifier (ascii "d") = some deploymentId' := by decide
    cases drawn.symm.trans named
    decide

-- Before the promotion, the nested file changed since the verification.
def changedWorld : @World plainSha :=
  let := plainSha
  let := passing
  step (step (step (started (nestedTree [1])) (.validate (ascii "a") .absent none)) (.verify (ascii "a") .absent none (ascii "d")))
    (.change (nestedTree [2]))

theorem nested_marker_changed : letI := plainSha
    letI := passing
    ¬ Trusted (started (nestedTree [1])) (checked ++ [.change (nestedTree [2]),promoted]) := by
  let := plainSha
  let := passing
  intro trusted
  obtain ⟨_,_,_,_,_,_,promotion,_⟩ := trusted
  have returned : (promoteResearchArtifact changedWorld.tree (ascii "a") (ascii "d") none).2.map
      (fun state => (state.artifactRoot,state.candidate)) = some (some artifact,candidateId) := by
    decide
  obtain ⟨state,made,parts⟩ := Option.map_eq_some_iff.mp returned
  obtain ⟨root,files,here,now,before,_⟩ := promotion state made
  rw [(Prod.mk.inj parts).1] at here
  rw [(Prod.mk.inj parts).2] at before
  have place : located (step changedWorld promoted).tree (some artifact) = some artifact := by decide
  have present : evidence (step changedWorld promoted).tree artifact [subName,promotionName] = some [2] := by decide
  have past : (changedWorld.validated candidateId).map (fun files => files [subName,promotionName]) = some (some [1]) := by
    decide
  have same : root = artifact := Option.some.inj (here.symm.trans place)
  have held : changedWorld.validated candidateId = some files := before
  rw [held,Option.map_some,Option.some.injEq] at past
  have read : evidence (step changedWorld promoted).tree root = files := now
  rw [same] at read
  rw [← read,present] at past
  exact absurd past (by decide)

end sample
end OpenStock.ClosedLoop.Deployments
