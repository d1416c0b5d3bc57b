import OpenStock.Foundations.Text

namespace OpenStock.FileTrees

-- A name in a directory: not empty, without a separator, and neither of the two names for directories.
structure FileName where
  text : Text
  proper : text ≠ [] ∧ '/' ∉ text ∧ text ≠ ['.'] ∧ text ≠ ['.','.']
  deriving DecidableEq

-- A file's path below a directory.
structure RelativePath where
  parents : List FileName
  name : FileName
  deriving DecidableEq

def RelativePath.parts (path : RelativePath) : List FileName := path.parents ++ [path.name]

-- `as_posix`.
def RelativePath.text (path : RelativePath) : Text := List.intercalate ['/'] (path.parts.map FileName.text)

-- Two files of one tree: neither is the other or a directory above it.
def Apart (left right : RelativePath) : Prop := ¬ left.parts <+: right.parts ∧ ¬ right.parts <+: left.parts

instance (left right : RelativePath) : Decidable (Apart left right) := inferInstanceAs (Decidable (_ ∧ _))

variable {left right : RelativePath}

theorem Apart.symm (apart : Apart left right) : Apart right left := ⟨apart.2,apart.1⟩

-- Whatever lies below both of two paths makes them comparable.
theorem apart_above (apart : Apart left right) (first : left.parts <+: below) : ¬ right.parts <+: below := by
  intro second
  rcases List.prefix_or_prefix_of_prefix first second with above | above
  · exact apart.1 above
  · exact apart.2 above

-- The files of a directory with their contents.
structure FileTree (γ : Type) where
  files : List (RelativePath × γ)
  apart : files.Pairwise (fun left right => Apart left.1 right.1)

namespace FileTree

variable {γ : Type}

def remove (tree : FileTree γ) (path : RelativePath) : FileTree γ where
  files := tree.files.filter (fun file => decide (file.1 ≠ path))
  apart := tree.apart.filter _

-- Writing a file fails where its name is a directory, or a directory above it a file.
def write (tree : FileTree γ) (path : RelativePath) (content : γ) : FileTree γ :=
  if free : ∀ file ∈ (tree.remove path).files, Apart path file.1 then
    ⟨(path,content) :: (tree.remove path).files,List.pairwise_cons.mpr ⟨free,(tree.remove path).apart⟩⟩
  else tree

end FileTree

/- A second directory that files are copied to. -/

section Copies

variable {γ : Type}

def put (path : RelativePath) (content : γ) (copies : List (RelativePath × γ)) : List (RelativePath × γ) :=
  (path,content) :: copies.filter (fun file => decide (file.1 ≠ path))

def isDirectory (copies : List (RelativePath × γ)) (parts : List FileName) : Bool :=
  copies.any (fun file => decide (parts <+: file.1.parts ∧ parts ≠ file.1.parts))

-- Where `mkdir(parents=True)` and `shutil.copy2` put a file: into a directory of its name, if there is one.
-- They fail where a directory above it is a file, or the place itself a directory.
def place (copies : List (RelativePath × γ)) (path : RelativePath) : Option RelativePath :=
  if copies.any (fun file => decide (file.1.parts <+: path.parents)) then none
  else if isDirectory copies path.parts then
    if isDirectory copies (path.parts ++ [path.name]) then none else some ⟨path.parts,path.name⟩
  else some path

variable {copies : List (RelativePath × γ)} {path : RelativePath} {content : γ} {file : RelativePath × γ}

theorem mem_put : file ∈ put path content copies ↔ file = (path,content) ∨ file ∈ copies ∧ file.1 ≠ path := by
  simp [put]

-- A copy that covers nothing else loses nothing.
theorem put_keeps
    (same : ∀ other ∈ copies, other.1 = path → other.2 = content) (inside : file ∈ copies) : file ∈ put path content copies := by
  rw [mem_put]
  by_cases here : file.1 = path
  · exact .inl (Prod.ext here (same file inside here))
  · exact .inr ⟨inside,here⟩

theorem put_any (test : RelativePath → Bool) (other : test path = false) :
    (put path content copies).any (fun file => test file.1) = copies.any (fun file => test file.1) := by
  apply Bool.eq_iff_iff.mpr
  simp only [List.any_eq_true,mem_put]
  constructor
  · rintro ⟨file,rfl | ⟨inside,_⟩,holds⟩
    · rw [other] at holds
      cases holds
    · exact ⟨file,inside,holds⟩
  · rintro ⟨file,inside,holds⟩
    refine ⟨file,.inr ⟨inside,?_⟩,holds⟩
    rintro rfl
    rw [other] at holds
    cases holds

theorem place_below {path found : RelativePath} (placed : place copies path = some found) : path.parts <+: found.parts := by
  unfold place at placed
  split at placed
  · cases placed
  · split at placed
    · split at placed
      · cases placed
      · cases placed
        exact List.prefix_append _ _
    · cases placed
      exact List.prefix_refl _

-- A copy of one file of a tree does not change where another one goes.
theorem place_stable {copies : List (RelativePath × γ)} {path other found : RelativePath} {content : γ} (apart : Apart path other)
    (placed : place copies path = some found) : place (put found content copies) other = place copies other := by
  have below := place_below placed
  have clear := apart_above apart below
  have above : decide (found.parts <+: other.parents) = false := by
    apply decide_eq_false
    intro higher
    exact apart.1 (below.trans (higher.trans (List.prefix_append _ _)))
  have beside : decide (other.parts <+: found.parts ∧ other.parts ≠ found.parts) = false :=
    decide_eq_false (fun both => clear both.1)
  have inside : decide (other.parts ++ [other.name] <+: found.parts ∧ other.parts ++ [other.name] ≠ found.parts) = false :=
    decide_eq_false (fun both => clear ((List.prefix_append _ _).trans both.1))
  unfold place isDirectory
  rw [put_any (fun path => decide (path.parts <+: other.parents)) above,
    put_any (fun path => decide (other.parts <+: path.parts ∧ other.parts ≠ path.parts)) beside,
    put_any (fun path => decide (other.parts ++ [other.name] <+: path.parts ∧ other.parts ++ [other.name] ≠ path.parts)) inside]

theorem place_apart {copies later : List (RelativePath × γ)} {path other found place_ : RelativePath} (apart : Apart path other)
    (placed : place copies path = some found) (otherPlaced : place later other = some place_) : place_ ≠ found := by
  rintro rfl
  exact apart_above apart (place_below placed) (place_below otherPlaced)

end Copies

end OpenStock.FileTrees
