import OpenStock.ClosedLoop.Deployment

namespace OpenStock.ClosedLoop

/- The files that the program keeps for itself. -/

def ownFolders : List Name := [validationsName,deploymentsName]

def Apart (path : Path) : Prop := ∃ first, path.head? = some first ∧ first ∉ ownFolders

theorem report_own (artifactId : Identifier) : ∃ own ∈ ownFolders, ∃ name, reportPath artifactId = [own,name] :=
  ⟨validationsName,by simp [ownFolders],_,rfl⟩

variable (deploymentId : Identifier)

theorem verification_own : ∃ own ∈ ownFolders, ∃ name, verificationPath deploymentId = [own,name] :=
  ⟨deploymentsName,by simp [ownFolders],_,rfl⟩

theorem deployment_own : ∃ own ∈ ownFolders, ∃ name, deploymentPath deploymentId = [own,name] :=
  ⟨deploymentsName,by simp [ownFolders],_,rfl⟩

theorem apart_own (inside : own ∈ ownFolders) : ¬ Apart [own,name] := by
  intro apart
  obtain ⟨first,here,outside⟩ := apart
  cases here
  exact outside inside

theorem marker_excluded (folder : Path) (named : name ∈ excluded) : isExcluded (folder ++ [name]) = true := by
  rw [isExcluded,List.getLast?_append,List.getLast?_singleton]
  simpa using named

theorem marker_isMarker (named : name ∈ excluded) : isMarker [name] = true := by
  rcases List.mem_cons.mp named with rfl | later
  · simp [isMarker]
  · rw [List.mem_singleton.mp later]
    simp [isMarker]

theorem apart_below {root path : Path} (apart : Apart root) (starts : root <+: path) : Apart path := by
  obtain ⟨first,here,outside⟩ := apart
  obtain ⟨rest,rfl⟩ := starts
  refine ⟨first,?_,outside⟩
  rw [List.head?_append,here,Option.some_or]

variable {left right : Identifier}

theorem file_injective (same : left.file suffix plain = right.file suffix plain) : left = right := by
  have bytes : left.bytes ++ suffix = right.bytes ++ suffix := congrArg Name.bytes same
  cases left
  cases right
  cases List.append_cancel_right bytes
  rfl

theorem reportPath_injective (same : reportPath left = reportPath right) : left = right :=
  file_injective (List.cons.inj (List.cons.inj same).2).1

theorem verificationPath_injective (same : verificationPath left = verificationPath right) : left = right :=
  file_injective (List.cons.inj (List.cons.inj same).2).1

section trees
variable [Sha256]

-- Below its own folders stand the files of the program alone.
def Tidy (tree : Tree) : Prop :=
  ∀ own ∈ ownFolders, tree.node [own] = none ∧ ∀ name, tree.Writable [own,name]

-- No link of the artifact leads to a file with the name of a marker.
def Sheltered (tree : Tree) (root : Path) : Prop :=
  ∀ entry target, (entry,.link target) ∈ tree.nodes → FileTree.below root entry = true → isExcluded entry = false →
    isExcluded target = false

theorem follow_writable {tree : Tree} (writable : tree.Writable (here ++ [name])) :
    tree.follow here name = some (here ++ [name]) := by
  unfold FileTree.follow
  rcases writable with absent | ⟨content,stored⟩
  · rw [absent]
  · rw [stored]

theorem resolve_own (tidy : Tidy tree) (inside : own ∈ ownFolders) : tree.resolve [own,name] = some [own,name] := by
  have first : tree.follow [] own = some [own] := follow_writable (.inl (tidy own inside).1)
  have second : tree.follow [own] name = some [own,name] := follow_writable ((tidy own inside).2 name)
  simp [FileTree.resolve,first,second]

-- A record is what the file of its name holds.
theorem load_iff (tidy : Tidy tree) {path : Path} (own : ∃ own ∈ ownFolders, ∃ name, path = [own,name])
    (select : Record → Option α) (model : α) : loadModel tree path select = .ok model ↔
      ∃ content record, tree.node path = some (.file content) ∧ content.record = some record ∧ select record = some model := by
  obtain ⟨folder,inside,name,rfl⟩ := own
  unfold loadModel
  rw [resolve_own tidy inside]
  dsimp only
  rcases (tidy folder inside).2 name with absent | ⟨content,stored⟩
  · rw [absent]
    dsimp only
    constructor
    · intro loaded
      split at loaded <;> cases loaded
    · intro found
      obtain ⟨content,record,here,_⟩ := found
      cases here
  · rw [stored]
    dsimp only
    constructor
    · intro loaded
      split at loaded
      · rename_i found
        cases loaded
        obtain ⟨record,parsed,selected⟩ := Option.bind_eq_some_iff.mp found
        exact ⟨content,record,rfl,parsed,selected⟩
      · cases loaded
    · intro found
      obtain ⟨same,record,here,parsed,selected⟩ := found
      cases here
      rw [parsed,Option.bind_some,selected]

theorem write_tidy {path : Path} (tidy : Tidy tree)
    (written : tree.write path content = some after) (where' : Apart path ∨ ∃ own ∈ ownFolders, ∃ name, path = [own,name]) :
    Tidy after := by
  obtain ⟨rfl,_⟩ := write_put written
  intro own inside
  constructor
  · have apart : [own] ≠ path := by
      intro same
      rcases where' with ⟨first,here,outside⟩ | ⟨other,_,name,shape⟩
      · rw [← same] at here
        cases here
        exact outside inside
      · rw [shape] at same
        cases same
    rw [node_put,if_neg apart]
    exact (tidy own inside).1
  · intro name
    unfold FileTree.Writable
    rw [node_put]
    by_cases same : [own,name] = path
    · rw [if_pos same]
      exact .inr ⟨content,rfl⟩
    · rw [if_neg same]
      exact (tidy own inside).2 name

/- What a write of a file leaves of an artifact. -/

variable {sought root : Path}

theorem located_put {path : Path} (content : File Record) (writable : tree.Writable path)
    (located : scopedDirectory tree sought = .ok root) : scopedDirectory (tree.put path content) sought = .ok root := by
  unfold scopedDirectory at located ⊢
  rw [resolve_put content writable]
  cases here : tree.resolve sought with
  | none =>
    rw [here] at located
    cases located
  | some found =>
    rw [here] at located
    dsimp only at located ⊢
    unfold scopedResolved at located ⊢
    rw [confined_put content writable]
    by_cases bound : (!tree.confined found) = true
    · rw [if_pos bound] at located
      cases located
    · rw [if_neg bound] at located ⊢
      by_cases absent : (!tree.isDir found) = true
      · rw [if_pos absent] at located
        cases located
      · have still := isDir_put path content (by simpa using absent)
        rw [if_neg absent] at located
        rw [if_neg (by simp [still])]
        exact located

theorem unseen_own {tree : Tree} {root : Path} (apart : Apart root) (confined : tree.confined root = true)
    (inside : own ∈ ownFolders) : Unseen tree root [own,name] := by
  constructor
  · intro under
    simp only [FileTree.below,decide_eq_true_eq] at under
    exact absurd (apart_below apart under.1) (apart_own inside)
  · intro entry target member under _ same
    unfold FileTree.confined at confined
    have bound := List.all_eq_true.mp confined _ member
    rw [under] at bound
    have starts : root <+: target := by simpa [FileTree.inside] using bound
    rw [same] at starts
    exact apart_own inside (apart_below apart starts)

theorem isDir_before {tree : Tree} (content : File Record) (folder : tree.isDir [own] = true) {place : Path}
    (here : (tree.put [own,name] content).isDir place = true) : tree.isDir place = true := by
  by_cases under : place <+: [own,name] ∧ place ≠ [own,name]
  · obtain ⟨starts,differs⟩ := under
    obtain ⟨rest,shape⟩ := starts
    cases place with
    | nil => simp [FileTree.isDir]
    | cons first place =>
      obtain ⟨rfl,tail⟩ := List.cons.inj shape
      cases place with
      | nil => exact folder
      | cons second place =>
        obtain ⟨rfl,last⟩ := List.cons.inj tail
        rw [List.append_eq_nil_iff.mp last |>.1] at differs
        exact absurd rfl differs
  · unfold FileTree.isDir at here ⊢
    simp only [Bool.or_eq_true,decide_eq_true_eq,List.any_eq_true] at here ⊢
    rcases here with known | ⟨entry,member,below⟩
    · exact .inl known
    · right
      rcases mem_put.mp member with rfl | ⟨old,_⟩
      · exact absurd below under
      · exact ⟨entry,old,below⟩

-- A directory that a file of the program's own folders did not make.
theorem located_back (content : File Record) (writable : tree.Writable [own,name]) (folder : tree.isDir [own] = true)
    (found : scopedDirectory (tree.put [own,name] content) sought = .ok root) : scopedDirectory tree sought = .ok root := by
  unfold scopedDirectory at found ⊢
  rw [resolve_put content writable] at found
  cases here : tree.resolve sought with
  | none =>
    rw [here] at found
    cases found
  | some place =>
    rw [here] at found
    dsimp only at found ⊢
    unfold scopedResolved at found ⊢
    rw [confined_put content writable] at found
    by_cases bound : (!tree.confined place) = true
    · rw [if_pos bound] at found
      cases found
    · rw [if_neg bound] at found ⊢
      by_cases absent : (!(tree.put [own,name] content).isDir place) = true
      · rw [if_pos absent] at found
        cases found
      · rw [if_neg absent] at found
        have before := isDir_before content folder (by simpa using absent)
        rw [if_neg (by simp [before])]
        exact found

theorem unseen_marker {root path : Path} (sheltered : Sheltered tree root) (named : isExcluded path = true) :
    Unseen tree root path := by
  constructor
  · intro _
    exact named
  · intro entry target member under shown same
    have plain := sheltered entry target member under shown
    rw [same,named] at plain
    cases plain

theorem sheltered_put {root path : Path} (sheltered : Sheltered tree root) : Sheltered (tree.put path content) root := by
  intro entry target member
  rcases mem_put.mp member with same | ⟨old,_⟩
  · cases same
  · exact sheltered entry target old

theorem digest_confined {root : Path} (taken : artifactDigest tree root = some digest) : tree.confined root = true := by
  obtain ⟨fields,read,_⟩ := Option.map_eq_some_iff.mp taken
  unfold digestFields at read
  split at read
  · assumption
  · cases read

end trees

/- The writes of a call. -/

section calls
variable [Sha256] [Inspection]

-- A record saved, and at most a marker or a copy at a root after it.
def Saved (tree : Tree) (path : Path) (record : Record) (root : Option Path) (after : Tree) : Prop :=
  ∃ middle, tree.write path ⟨Inspection.modelDumpJson record,some record⟩ = some middle ∧
    (after = middle ∨ ∃ folder name content, root = some folder ∧ name ∈ excluded ∧ Apart folder ∧
      middle.write (folder ++ [name]) content = some after)

variable {record : Record} {place : Option Path}

theorem saved_tidy {path : Path} (tidy : Tidy tree)
    (own : ∃ own ∈ ownFolders, ∃ name, path = [own,name]) (saved : Saved tree path record place after) : Tidy after := by
  obtain ⟨middle,written,rest⟩ := saved
  have between := write_tidy tidy written (.inr own)
  rcases rest with rfl | ⟨folder,name,content,_,_,apart,second⟩
  · exact between
  · exact write_tidy between second (.inl (apart_below apart (List.prefix_append _ _)))

-- Of its own files a call changes the one of its record.
theorem saved_node {path : Path} (saved : Saved tree path record place after) (inside : own ∈ ownFolders) :
    after.node [own,name] = if [own,name] = path then some (.file ⟨Inspection.modelDumpJson record,some record⟩)
      else tree.node [own,name] := by
  obtain ⟨middle,written,rest⟩ := saved
  obtain ⟨rfl,_⟩ := write_put written
  rcases rest with rfl | ⟨folder,marker,content,_,_,apart,second⟩
  · exact node_put _ _ _ _
  · obtain ⟨rfl,_⟩ := write_put second
    have other : [own,name] ≠ folder ++ [marker] := by
      intro same
      have here := apart_below apart (List.prefix_append folder [marker])
      rw [← same] at here
      exact apart_own inside here
    rw [node_put,if_neg other,node_put]

theorem saved_load {path sought : Path} (tidy : Tidy tree)
    (own : ∃ own ∈ ownFolders, ∃ name, path = [own,name]) (soughtOwn : ∃ own ∈ ownFolders, ∃ name, sought = [own,name])
    (saved : Saved tree path record place after) (loaded : loadModel after sought select = .ok model) :
    (sought = path ∧ select record = some model) ∨ (sought ≠ path ∧ loadModel tree sought select = .ok model) := by
  obtain ⟨content,held,stored,parsed,selected⟩ := (load_iff (saved_tidy tidy own saved) soughtOwn select model).mp loaded
  obtain ⟨folder,inside,name,rfl⟩ := soughtOwn
  rw [saved_node saved inside] at stored
  split at stored
  · rename_i same
    cases stored
    cases parsed
    exact .inl ⟨same,selected⟩
  · rename_i other
    exact .inr ⟨other,(load_iff tidy ⟨folder,inside,name,rfl⟩ select model).mpr ⟨content,held,stored,parsed,selected⟩⟩

variable {path root : Path}

-- The program's own writes leave the digest of an artifact.
theorem saved_digest
    (own : ∃ own ∈ ownFolders, ∃ name, path = [own,name]) (saved : Saved tree path record place after) (apart : Apart root)
    (sheltered : Sheltered tree root) (taken : artifactDigest tree root = some digest) :
    artifactDigest after root = some digest := by
  obtain ⟨folder,inside,name,rfl⟩ := own
  obtain ⟨middle,written,rest⟩ := saved
  obtain ⟨rfl,writable⟩ := write_put written
  have first := (digest_put ⟨Inspection.modelDumpJson record,some record⟩ writable
    (unseen_own apart (digest_confined taken) inside)).trans taken
  rcases rest with rfl | ⟨folder,name,content,_,named,_,second⟩
  · exact first
  · obtain ⟨rfl,writableLater⟩ := write_put second
    exact (digest_put content writableLater (unseen_marker (sheltered_put sheltered) (marker_excluded folder named))).trans first

theorem saved_located {path sought root : Path} (saved : Saved tree path record place after)
    (located : scopedDirectory tree sought = .ok root) : scopedDirectory after sought = .ok root := by
  obtain ⟨middle,written,rest⟩ := saved
  obtain ⟨rfl,writable⟩ := write_put written
  have first := located_put ⟨Inspection.modelDumpJson record,some record⟩ writable located
  rcases rest with rfl | ⟨folder,name,content,_,_,_,second⟩
  · exact first
  · obtain ⟨rfl,writableLater⟩ := write_put second
    exact located_put content writableLater first

-- The call's own marker is no evidence of the artifact that it stands in.
theorem saved_evidence
    (own : ∃ own ∈ ownFolders, ∃ name, path = [own,name]) (saved : Saved tree path record (some root) after) (apart : Apart root)
    (sheltered : Sheltered tree root) (framed : Framed tree root) (confined : tree.confined root = true) :
    evidence after root = evidence tree root := by
  obtain ⟨folder,inside,name,rfl⟩ := own
  obtain ⟨middle,written,rest⟩ := saved
  obtain ⟨rfl,writable⟩ := write_put written
  have elsewhere : ∀ rest, [folder,name] = root ++ rest → rest ≠ [] → isMarker rest = true := by
    intro rest shape _
    have here := apart_below apart (List.prefix_append root rest)
    rw [← shape] at here
    exact absurd here (apart_own inside)
  have first := evidence_put ⟨Inspection.modelDumpJson record,some record⟩ framed (unseen_own apart confined inside) elsewhere
  rcases rest with rfl | ⟨place,marker,content,here,named,_,second⟩
  · exact first
  · cases here
    obtain ⟨rfl,writableLater⟩ := write_put second
    have outside : FileTree.below root [folder,name] = false := by
      rw [Bool.eq_false_iff]
      intro under
      simp only [FileTree.below,decide_eq_true_eq] at under
      exact apart_own inside (apart_below apart under.1)
    have still := framed_put ⟨Inspection.modelDumpJson record,some record⟩ framed (unseen_own apart confined inside) outside
    rw [← first]
    refine evidence_put content still (unseen_marker (sheltered_put sheltered) (marker_excluded root named)) ?_
    intro rest shape _
    rw [← List.append_cancel_left shape]
    exact marker_isMarker named

/- What each call writes. -/

theorem writeModel_own {path : Path} (tidy : Tidy tree)
    (own : ∃ own ∈ ownFolders, ∃ name, path = [own,name]) (written : writeModel tree path record = some middle) :
    tree.write path ⟨Inspection.modelDumpJson record,some record⟩ = some middle := by
  obtain ⟨folder,inside,name,rfl⟩ := own
  rw [writeModel,resolve_own tidy inside,Option.bind_some] at written
  exact written

omit [Inspection] in
theorem marker_write {tree after : Tree} {root : Path} (plain : ∀ target, tree.node (root ++ [name]) ≠ some (.link target))
    (written : (tree.follow root name).bind (fun path => tree.write path content) = some after) :
    tree.write (root ++ [name]) content = some after := by
  obtain ⟨path,followed,here⟩ := Option.bind_eq_some_iff.mp written
  unfold FileTree.follow at followed
  split at followed
  · rename_i target stored
    exact absurd stored (plain target)
  · cases followed
  · cases followed
    exact here

-- What stands at the markers of a root is left by a record.
omit [Inspection] in
theorem plain_put {tree : Tree} (plain : ∀ name ∈ excluded, ∀ target,
    tree.node (root ++ [name]) ≠ some (.link target)) : ∀ name ∈ excluded, ∀ target,
      (tree.put path content).node (root ++ [name]) ≠ some (.link target) := by
  intro name named target
  rw [node_put]
  split
  · intro file
    cases file
  · exact plain name named target

theorem report_saved (tidy : Tidy tree)
    (sound : ∀ root, report.artifactRoot = some root → Apart root ∧ ∀ name ∈ excluded, ∀ target,
      tree.node (root ++ [name]) ≠ some (.link target)) (saved : saveValidationReport tree report = some after) :
    Saved tree (reportPath report.artifactId) (.report report) report.artifactRoot after := by
  obtain ⟨middle,written,rfl⟩ := Option.map_eq_some_iff.mp saved
  have first := writeModel_own tidy (report_own _) written
  refine ⟨middle,first,?_⟩
  cases here : report.artifactRoot with
  | none => exact .inl rfl
  | some root =>
    dsimp only
    obtain ⟨apart,plain⟩ := sound root here
    cases copied : writeMarker middle root reportName ⟨Inspection.modelDumpJson (.report report),some (.report report)⟩ with
    | none => exact .inl rfl
    | some after =>
      right
      refine ⟨root,reportName,⟨Inspection.modelDumpJson (.report report),some (.report report)⟩,rfl,by simp [excluded],apart,?_⟩
      unfold writeMarker scopedResolved at copied
      split at copied
      · cases copied
      · rename_i place found
        have same : root = place := by
          split at found
          · cases found
          · split at found <;> cases found
            rfl
        cases same
        obtain ⟨rfl,_⟩ := write_put first
        exact marker_write (plain_put plain reportName (by simp [excluded])) copied

omit [Inspection] in
theorem own_isDir {tree : Tree} (stored : tree.node [own,name] = some node) : tree.isDir [own] = true := by
  have member := (node_iff _ _ _).mp stored
  simp only [FileTree.isDir,Bool.or_eq_true,List.any_eq_true]
  exact .inr ⟨_,member,by simp⟩

theorem deployment_saved {tree : Tree} {state : DeploymentState} {reason : Bytes} (tidy : Tidy tree)
    (folder : tree.isDir [deploymentsName] = true)
    (sound : ∀ path root, state.artifactRoot = some path → scopedDirectory tree path = .ok root →
      Apart root ∧ ∀ name ∈ excluded, ∀ target, tree.node (root ++ [name]) ≠ some (.link target)) :
    recordDeployment tree state reason = (tree,none) ∨
      ((recordDeployment tree state reason).2 = none ∨ (recordDeployment tree state reason).2 = some state) ∧
        Saved tree (deploymentPath state.deploymentId) (.deployment state)
          (state.artifactRoot.bind (fun path => (scopedDirectory tree path).toOption)) (recordDeployment tree state reason).1 := by
  unfold recordDeployment
  cases written : writeModel tree (deploymentPath state.deploymentId) (.deployment state) with
  | none => exact .inl rfl
  | some middle =>
    right
    have first := writeModel_own tidy (deployment_own _) written
    dsimp only
    cases marked : writePromotionMarker middle state reason with
    | none => exact ⟨.inl rfl,middle,first,.inl rfl⟩
    | some after =>
      refine ⟨.inr rfl,middle,first,?_⟩
      dsimp only
      unfold writePromotionMarker at marked
      cases here : state.artifactRoot with
      | none =>
        rw [here] at marked
        cases marked
        exact .inl rfl
      | some path =>
        rw [here] at marked
        dsimp only at marked
        cases found : scopedDirectory middle path with
        | error refused =>
          rw [found] at marked
          cases marked
        | ok root =>
          rw [found] at marked
          obtain ⟨rfl,writable⟩ := write_put first
          have before := located_back ⟨Inspection.modelDumpJson (.deployment state),some (.deployment state)⟩ writable folder found
          obtain ⟨apart,plain⟩ := sound path root here before
          right
          refine ⟨root,promotionName,⟨Inspection.markerText state reason,none⟩,?_,by simp [excluded],apart,
            marker_write (plain_put plain promotionName (by simp [excluded])) marked⟩
          rw [Option.bind_some,before]
          rfl

end calls
end OpenStock.ClosedLoop
