import OpenStock.Foundations.Framing
import OpenStock.Foundations.Rows
import OpenStock.Ranking.Metrics

namespace OpenStock.ClosedLoop
open Framing

abbrev Byte := Fin 256
abbrev Bytes := List Byte

instance byteNonzero : NeZero 256 := ⟨by decide⟩

instance byteLawful : LawfulBEq Byte := inferInstance

def ascii (text : String) : Bytes := text.toList.map (fun c => Fin.ofNat 256 c.toNat)

-- One component of a path: neither empty nor with a NUL or a slash.
structure Name where
  bytes : Bytes
  plain : bytes ≠ [] ∧ 0 ∉ bytes ∧ 47 ∉ bytes
deriving DecidableEq

abbrev Path := List Name

/- `ρ` is what a file can hold for the program: the records of its store. -/
variable {ρ : Type}

-- A file's bytes, and the record that `model_validate_json` reads in them.
structure File (ρ : Type) where
  bytes : Bytes
  record : Option ρ

-- A link is kept with the path it resolves to, under the root of the store or not.
inductive Node (ρ : Type) where
  | file (content : File ρ)
  | link (target : Path)
  | escaping
  | unreadable

-- The files below the root of the store, and its directories.
structure FileTree (ρ : Type) where
  nodes : List (Path × Node ρ)
  distinct : Rows.Distinct Prod.fst nodes
  folders : List Path

namespace FileTree

def node (tree : FileTree ρ) (path : Path) : Option (Node ρ) :=
  (tree.nodes.find? (fun entry => entry.1 = path)).map Prod.snd

def isDir (tree : FileTree ρ) (path : Path) : Bool :=
  decide (path = []) || decide (path ∈ tree.folders) || tree.nodes.any (fun entry => decide (path <+: entry.1 ∧ path ≠ entry.1))

def put (tree : FileTree ρ) (path : Path) (content : File ρ) : FileTree ρ where
  nodes := Rows.upsert Prod.fst tree.nodes (path,.file content)
  distinct := Rows.upsert_distinct tree.distinct _
  folders := tree.folders

-- `write_text` after `mkdir(parents=True)` of the parent.
def write (tree : FileTree ρ) (path : Path) (content : File ρ) : Option (FileTree ρ) :=
  match tree.node path with
  | some (.file _) => some (tree.put path content)
  | some _ => none
  | none =>
    if tree.isDir path ∨ (path.inits.dropLast.any (fun folder => (tree.node folder).isSome)) then none
    else some (tree.put path content)

-- One more name after a resolved path.
def follow (tree : FileTree ρ) (here : Path) (name : Name) : Option Path :=
  match tree.node (here ++ [name]) with
  | some (.link target) => some target
  | some .escaping => none
  | _ => some (here ++ [name])

-- `resolve_under(root, path)`; none where it raises.
def resolve (tree : FileTree ρ) (path : Path) : Option Path := path.foldlM tree.follow []

def below (root path : Path) : Bool := decide (root <+: path ∧ root ≠ path)

-- `resolve_under(root, entry)` of an entry below the root
def inside (root : Path) : Node ρ → Bool
  | .file _ => true
  | .link target => decide (root <+: target)
  | .escaping => false
  | .unreadable => true

def confined (tree : FileTree ρ) (root : Path) : Bool :=
  tree.nodes.all (fun entry => !below root entry.1 || inside root entry.2)

def ensureTreeConfined (tree : FileTree ρ) (path : Path) : Option Path :=
  (tree.resolve path).bind (fun root => if tree.confined root then some root else none)

def read (tree : FileTree ρ) : Node ρ → Option Bytes
  | .file content => some content.bytes
  | .link target => match tree.node target with
    | some (.file content) => some content.bytes
    | _ => none
  | .escaping => none
  | .unreadable => none

end FileTree

def promotionName : Name := ⟨ascii "promotion.json",by decide⟩
def reportName : Name := ⟨ascii "validation-report.json",by decide⟩

def excluded : List Name := [promotionName,reportName]

def isExcluded (path : Path) : Bool := match path.getLast? with
  | some name => decide (name ∈ excluded)
  | none => false

-- `as_posix().encode("utf-8")`
def posix (path : Path) : Bytes := [47].intercalate (path.map Name.bytes)

-- A file that enters the digest, by its path under the root.
def counted (root : Path) (entry : Path × Node ρ) : Option (Path × Node ρ) :=
  if FileTree.below root entry.1 ∧ isExcluded entry.1 = false then some (entry.1.drop root.length,entry.2) else none

def countedFiles (tree : FileTree ρ) (root : Path) : List (Path × Node ρ) :=
  Ranking.sortBy (fun entry : Path × Node ρ => entry.1.map Name.bytes) (tree.nodes.filterMap (counted root))

def digestFields (tree : FileTree ρ) (root : Path) : Option (List (Bytes × Bytes)) :=
  if tree.confined root then
    (countedFiles tree root).mapM (fun entry => (tree.read entry.2).map (fun bytes => (posix entry.1,bytes)))
  else none

class Sha256 where
  Digest : Type
  decidable : DecidableEq Digest
  hexdigest : Bytes → Digest
  injective : Function.Injective hexdigest

instance [Sha256] : DecidableEq Sha256.Digest := Sha256.decidable

-- None where the source raises.
def artifactDigest [Sha256] (tree : FileTree ρ) (root : Path) : Option Sha256.Digest :=
  (digestFields tree root).map (fun fields => Sha256.hexdigest (frame 0 (pairFields fields)))

/- The evidence of an artifact: its files by relative path, but for the two files
that the program writes at its root. -/

def isMarker (path : Path) : Bool := decide (path ∈ [[promotionName],[reportName]])

def Evidence := Path → Option Bytes

def evidence (tree : FileTree ρ) (root : Path) : Evidence := fun path =>
  if path = [] ∨ isMarker path then none else (tree.node (root ++ path)).bind tree.read

-- Files with the name of a marker stand at the root only, and no other file has
-- a NUL byte.
structure Framed (tree : FileTree ρ) (root : Path) : Prop where
  markers : ∀ path node, (root ++ path,node) ∈ tree.nodes → path ≠ [] → isExcluded path = true → isMarker path = true
  plain : ∀ path node bytes, (root ++ path,node) ∈ tree.nodes → path ≠ [] → isExcluded path = false →
    tree.read node = some bytes → 0 ∉ bytes

theorem posix_injective (leftSome : left ≠ []) (rightSome : right ≠ []) (same : posix left = posix right) : left = right := by
  have plain : ∀ path : Path, ∀ part ∈ path.map Name.bytes, (47 : Byte) ∉ part := by
    intro path part member
    obtain ⟨name,_,rfl⟩ := List.mem_map.mp member
    exact name.plain.2.2
  have parts := intercalate_injective (by simpa using leftSome) (by simpa using rightSome) (plain left) (plain right) same
  have names : Function.Injective Name.bytes := by
    intro one other equal
    cases one
    cases other
    cases equal
    rfl
  exact List.map_injective_iff.mpr names parts

theorem posix_plain (path : Path) : 0 ∉ posix path := by
  intro present
  induction path with
  | nil => simp [posix] at present
  | cons name path ih =>
    cases path with
    | nil =>
      rw [posix,List.map_singleton,List.intercalate_singleton] at present
      exact name.plain.2.1 present
    | cons next path =>
      rw [posix,List.map_cons,List.map_cons,List.intercalate_cons_cons,List.mem_append,List.mem_append] at present
      rcases present with (here | slash) | later
      · exact name.plain.2.1 here
      · exact absurd (List.mem_singleton.mp slash) (by decide)
      · exact ih later

theorem excluded_drop (root path : Path) (some' : path ≠ []) : isExcluded (root ++ path) = isExcluded path := by
  rw [isExcluded,isExcluded,List.getLast?_append_of_ne_nil _ some']

variable {path : Path}

theorem below_append (root : Path) (some' : path ≠ []) : FileTree.below root (root ++ path) = true := by
  simp only [FileTree.below,decide_eq_true_eq]
  exact ⟨List.prefix_append _ _,fun equal => some' (by simpa using equal.symm)⟩

variable {node : Node ρ} {entry : Path × Node ρ}

theorem counted_iff {root path : Path} :
    counted root entry = some (path,node) ↔ entry = (root ++ path,node) ∧ path ≠ [] ∧ isExcluded path = false := by
  unfold counted
  constructor
  · intro found
    split at found
    · rename_i here
      obtain ⟨under,shown⟩ := here
      cases found
      simp only [FileTree.below,decide_eq_true_eq] at under
      obtain ⟨rest,shape⟩ := under.1
      have dropped : entry.1.drop root.length = rest := by rw [← shape,List.drop_left]
      have some' : rest ≠ [] := by
        intro empty
        rw [empty,List.append_nil] at shape
        exact under.2 shape
      rw [dropped]
      refine ⟨Prod.ext shape.symm rfl,some',?_⟩
      rw [← excluded_drop root rest some',shape]
      exact shown
    · cases found
  · intro shape
    obtain ⟨rfl,some',shown⟩ := shape
    rw [if_pos ⟨below_append root some',by rw [excluded_drop root path some']; exact shown⟩,List.drop_left]

variable (tree : FileTree ρ)

theorem node_iff (path : Path) (node : Node ρ) : tree.node path = some node ↔ (path,node) ∈ tree.nodes := by
  unfold FileTree.node
  constructor
  · intro found
    obtain ⟨entry,first,rfl⟩ := Option.map_eq_some_iff.mp found
    have keyed : entry.1 = path := by simpa using List.find?_some first
    rw [← keyed]
    exact List.mem_of_find?_eq_some first
  · intro member
    have first := Rows.select_key tree.distinct member
    simp only [beq_eq_decide] at first
    rw [first]
    rfl

theorem node_put (path : Path) (content : File ρ) (sought : Path) :
    (tree.put path content).node sought = if sought = path then some (.file content) else tree.node sought := by
  unfold FileTree.node FileTree.put
  rw [Rows.find_upsert]
  split <;> rfl

/- The evidence that a digest stands for. -/

variable {tree : FileTree ρ}

theorem countedFiles_iff {root path : Path} :
    (path,node) ∈ countedFiles tree root ↔ (root ++ path,node) ∈ tree.nodes ∧ path ≠ [] ∧ isExcluded path = false := by
  unfold countedFiles
  rw [(Ranking.perm_sortBy _ _).mem_iff,List.mem_filterMap]
  constructor
  · intro found
    obtain ⟨entry,member,here⟩ := found
    obtain ⟨rfl,some',shown⟩ := counted_iff.mp here
    exact ⟨member,some',shown⟩
  · intro found
    obtain ⟨member,some',shown⟩ := found
    exact ⟨_,member,counted_iff.mpr ⟨rfl,some',shown⟩⟩

variable {fields : List (Bytes × Bytes)} {root : Path}

theorem digestFields_iff (digested : digestFields tree root = some fields) (field : Bytes × Bytes) :
    field ∈ fields ↔ ∃ path node, (root ++ path,node) ∈ tree.nodes ∧ path ≠ [] ∧ isExcluded path = false ∧
      field.1 = posix path ∧ tree.read node = some field.2 := by
  unfold digestFields at digested
  split at digested
  · have listed := Rows.column_some digested
    have members : field ∈ fields ↔ some field ∈ fields.map some := by simp
    rw [members,← listed,List.mem_map]
    constructor
    · intro found
      obtain ⟨⟨path,node⟩,member,here⟩ := found
      obtain ⟨bytes,read,rfl⟩ := Option.map_eq_some_iff.mp here
      obtain ⟨stored,some',shown⟩ := countedFiles_iff.mp member
      exact ⟨path,node,stored,some',shown,rfl,read⟩
    · intro found
      obtain ⟨path,node,stored,some',shown,name,read⟩ := found
      refine ⟨(path,node),countedFiles_iff.mpr ⟨stored,some',shown⟩,?_⟩
      rw [read,Option.map_some,← name]
  · cases digested

theorem evidence_field (digested : digestFields tree root = some fields) (framed : Framed tree root) (some' : path ≠ [])
    (unmarked : isMarker path = false) (bytes : Bytes) :
    evidence tree root path = some bytes ↔ (posix path,bytes) ∈ fields := by
  have outside : ¬ (path = [] ∨ isMarker path = true) := by simp [some',unmarked]
  rw [digestFields_iff digested,evidence,if_neg outside,Option.bind_eq_some_iff]
  constructor
  · intro found
    obtain ⟨node,stored,read⟩ := found
    have member := (node_iff _ _ _).mp stored
    refine ⟨path,node,member,some',?_,rfl,read⟩
    cases shown : isExcluded path with
    | false => rfl
    | true =>
      have marked := framed.markers path node member some' shown
      rw [unmarked] at marked
      cases marked
  · intro found
    obtain ⟨other,node,member,otherSome,_,same,read⟩ := found
    cases posix_injective some' otherSome same
    exact ⟨node,(node_iff _ _ _).mpr member,read⟩

theorem fields_plain (digested : digestFields tree root = some fields) (framed : Framed tree root) :
    ∀ field ∈ pairFields fields, 0 ∉ field := by
  intro field member
  obtain ⟨pair,inside,here⟩ := pairFields_members member
  obtain ⟨path,node,stored,some',shown,name,read⟩ := (digestFields_iff digested pair).mp inside
  rcases here with first | second
  · rw [first,name]
    exact posix_plain path
  · rw [second]
    exact framed.plain path node pair.2 stored some' shown read

-- Trees without framing bytes and stray markers: a digest tells them apart.
theorem digest_evidence [Sha256] {left right : FileTree ρ} {leftRoot rightRoot : Path} {digest : Sha256.Digest}
    (leftFramed : Framed left leftRoot) (rightFramed : Framed right rightRoot)
    (leftDigest : artifactDigest left leftRoot = some digest) (rightDigest : artifactDigest right rightRoot = some digest) :
    evidence left leftRoot = evidence right rightRoot := by
  obtain ⟨leftFields,leftRead,leftHash⟩ := Option.map_eq_some_iff.mp leftDigest
  obtain ⟨rightFields,rightRead,rightHash⟩ := Option.map_eq_some_iff.mp rightDigest
  have streams := Sha256.injective (leftHash.trans rightHash.symm)
  have fields : leftFields = rightFields :=
    pairFields_injective (frame_injective (fields_plain leftRead leftFramed) (fields_plain rightRead rightFramed) streams)
  funext path
  by_cases outside : path = [] ∨ isMarker path = true
  · rw [evidence,evidence,if_pos outside,if_pos outside]
  · rw [not_or,Bool.not_eq_true] at outside
    apply Option.ext
    intro bytes
    rw [evidence_field leftRead leftFramed outside.1 outside.2,evidence_field rightRead rightFramed outside.1 outside.2,fields]

/- What a write leaves of a digest. -/

-- Where a file is written: no link stands there.
def FileTree.Writable (tree : FileTree ρ) (path : Path) : Prop :=
  tree.node path = none ∨ ∃ content, tree.node path = some (.file content)

-- The path is no evidence of the artifact, and no link of the artifact leads to it.
structure Unseen (tree : FileTree ρ) (root path : Path) : Prop where
  excluded : FileTree.below root path = true → isExcluded path = true
  unlinked : ∀ entry target, (entry,.link target) ∈ tree.nodes → FileTree.below root entry = true →
    isExcluded entry = false → target ≠ path

theorem write_put {tree after : FileTree ρ} {content : File ρ} (written : tree.write path content = some after) :
    after = tree.put path content ∧ tree.Writable path := by
  unfold FileTree.write at written
  split at written
  · rename_i old here
    cases written
    exact ⟨rfl,.inr ⟨old,here⟩⟩
  · cases written
  · rename_i absent
    split at written
    · cases written
    · cases written
      exact ⟨rfl,.inl absent⟩

variable (content : File ρ)

theorem follow_put (writable : tree.Writable path) : (tree.put path content).follow = tree.follow := by
  funext here name
  unfold FileTree.follow
  by_cases same : here ++ [name] = path
  · rw [node_put,if_pos same,same]
    rcases writable with absent | ⟨old,stored⟩
    · rw [absent]
    · rw [stored]
  · rw [node_put,if_neg same]

theorem resolve_put (writable : tree.Writable path) (sought : Path) :
    (tree.put path content).resolve sought = tree.resolve sought := by
  rw [FileTree.resolve,FileTree.resolve,follow_put content writable]

theorem mem_put {content : File ρ} :
    entry ∈ (tree.put path content).nodes ↔ entry = (path,.file content) ∨ entry ∈ tree.nodes ∧ entry.1 ≠ path :=
  Rows.mem_upsert_key tree.nodes (path,.file content) entry

theorem confined_put (writable : tree.Writable path) (root : Path) :
    (tree.put path content).confined root = tree.confined root := by
  rw [Bool.eq_iff_iff,FileTree.confined,FileTree.confined,List.all_eq_true,List.all_eq_true]
  constructor
  · intro all entry member
    by_cases same : entry.1 = path
    · rcases writable with absent | ⟨old,stored⟩
      · have present := (node_iff tree entry.1 entry.2).mpr member
        rw [same,absent] at present
        cases present
      · have present := (node_iff tree entry.1 entry.2).mpr member
        rw [same,stored] at present
        rw [← Option.some.inj present]
        simp [FileTree.inside]
    · exact all entry (mem_put.mpr (.inr ⟨member,same⟩))
  · intro all entry member
    rcases mem_put.mp member with rfl | ⟨old,_⟩
    · simp [FileTree.inside]
    · exact all entry old

theorem isDir_put (path : Path) (content : File ρ) (here : tree.isDir folder = true) :
    (tree.put path content).isDir folder = true := by
  unfold FileTree.isDir at here ⊢
  simp only [Bool.or_eq_true,decide_eq_true_eq,List.any_eq_true] at here ⊢
  rcases here with known | ⟨entry,member,under⟩
  · exact .inl known
  · right
    by_cases same : entry.1 = path
    · exact ⟨(path,.file content),mem_put.mpr (.inl rfl),same ▸ under⟩
    · exact ⟨entry,mem_put.mpr (.inr ⟨member,same⟩),under⟩

theorem read_put (unlinked : node ≠ .link path) : (tree.put path content).read node = tree.read node := by
  cases node with
  | link target =>
    have apart : target ≠ path := fun same => unlinked (by rw [same])
    rw [FileTree.read,FileTree.read,node_put,if_neg apart]
  | file old => rfl
  | escaping => rfl
  | unreadable => rfl

theorem counted_put {path root : Path} (content : File ρ) (hidden : FileTree.below root path = true → isExcluded path = true) :
    (tree.put path content).nodes.filterMap (counted root) = tree.nodes.filterMap (counted root) := by
  have uncounted : ∀ node : Node ρ, counted root (path,node) = none := by
    intro node
    unfold counted
    rw [if_neg]
    intro both
    rw [hidden both.1] at both
    cases both.2
  have shape : (tree.put path content).nodes = Rows.upsert Prod.fst tree.nodes (path,.file content) := rfl
  rw [shape,Rows.upsert]
  split
  · rw [Rows.replace,List.filterMap_map]
    apply List.filterMap_congr
    intro entry _
    by_cases same : entry.1 = path
    · have before : counted root entry = none := by
        obtain ⟨here,node⟩ := entry
        cases same
        exact uncounted node
      simp [same,before,uncounted]
    · simp [same]
  · simp [List.filterMap_append,uncounted]

theorem digest_put [Sha256] {tree : FileTree ρ} {path root : Path} (content : File ρ) (writable : tree.Writable path)
    (unseen : Unseen tree root path) : artifactDigest (tree.put path content) root = artifactDigest tree root := by
  have files : countedFiles (tree.put path content) root = countedFiles tree root := by
    rw [countedFiles,countedFiles,counted_put content unseen.excluded]
  have fields : digestFields (tree.put path content) root = digestFields tree root := by
    unfold digestFields
    rw [confined_put content writable,files]
    have reads : (countedFiles tree root).mapM (fun entry => ((tree.put path content).read entry.2).map (fun bytes => (posix entry.1,bytes))) =
        (countedFiles tree root).mapM (fun entry => (tree.read entry.2).map (fun bytes => (posix entry.1,bytes))) := by
      apply Rows.column_congr
      intro entry member
      obtain ⟨stored,some',shown⟩ := countedFiles_iff.mp member
      rw [read_put]
      intro link
      rw [link] at stored
      refine unseen.unlinked _ path stored (below_append root some') ?_ rfl
      rw [excluded_drop root entry.1 some']
      exact shown
    rw [reads]
  rw [artifactDigest,artifactDigest,fields]

theorem framed_put {path root : Path} (content : File ρ) (framed : Framed tree root)
    (unseen : Unseen tree root path) (elsewhere : FileTree.below root path = false) : Framed (tree.put path content) root := by
  have kept : ∀ rest node, (root ++ rest,node) ∈ (tree.put path content).nodes → rest ≠ [] → (root ++ rest,node) ∈ tree.nodes := by
    intro rest node member some'
    rcases mem_put.mp member with same | ⟨old,_⟩
    · have under := below_append root some'
      rw [(Prod.mk.inj same).1,elsewhere] at under
      cases under
    · exact old
  constructor
  · intro rest node member some' named
    exact framed.markers rest node (kept rest node member some') some' named
  · intro rest node bytes member some' shown read
    have old := kept rest node member some'
    apply framed.plain rest node bytes old some' shown
    rw [← read]
    refine (read_put content ?_).symm
    intro link
    rw [link] at old
    refine unseen.unlinked _ path old (below_append root some') ?_ rfl
    rw [excluded_drop root rest some']
    exact shown

theorem evidence_put {path root : Path} (content : File ρ) (framed : Framed tree root)
    (unseen : Unseen tree root path) (marker : ∀ rest, path = root ++ rest → rest ≠ [] → isMarker rest = true) :
    evidence (tree.put path content) root = evidence tree root := by
  funext rest
  unfold evidence
  by_cases outside : rest = [] ∨ isMarker rest = true
  · rw [if_pos outside,if_pos outside]
  · rw [if_neg outside,if_neg outside,node_put]
    rw [not_or,Bool.not_eq_true] at outside
    have apart : root ++ rest ≠ path := by
      intro same
      have marked := marker rest same.symm outside.1
      rw [outside.2] at marked
      cases marked
    rw [if_neg apart]
    cases stored : tree.node (root ++ rest) with
    | none => rfl
    | some node =>
      have member := (node_iff _ _ _).mp stored
      apply read_put
      intro link
      rw [link] at member
      refine unseen.unlinked _ path member (below_append root outside.1) ?_ rfl
      rw [excluded_drop root rest outside.1]
      cases shown : isExcluded rest with
      | false => rfl
      | true =>
        have marked := framed.markers rest _ member outside.1 shown
        rw [outside.2] at marked
        cases marked

end OpenStock.ClosedLoop
