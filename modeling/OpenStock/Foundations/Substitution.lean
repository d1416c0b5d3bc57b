import OpenStock.Foundations.Substrings

namespace OpenStock.Substitution
open Substrings (Free Border free_append free_absent free_cons free_part)

/- Patterns that see the item before a match, and keep a part of what they match. -/

-- `find` gives what is kept of a match at the head and the list after it. Something of
-- a match is hidden, and no match starts where one ends.
structure Pattern (α : Type) where
  find : Option α → List α → Option (List α × List α)
  splits : find before text = some (kept,rest) → ∃ hidden, hidden ≠ [] ∧ text = kept ++ (hidden ++ rest)
  ended : find before text = some (kept,rest) → ∀ other, find other rest = none

inductive Piece (α : Type) where
  | plain (item : α)
  | hit (kept : List α)

variable {α : Type} (pattern : Pattern α)

-- Matches are taken from the left and do not overlap. What stands before the list after
-- a match makes no difference (`ended`).
def piecesFrom : Nat → Option α → List α → List (Piece α)
  | 0,_,_ => []
  | _ + 1,_,[] => []
  | fuel + 1,before,c :: text =>
    match pattern.find before (c :: text) with
    | some (kept,rest) => .hit kept :: piecesFrom fuel none rest
    | none => .plain c :: piecesFrom fuel (some c) text

def pieces (before : Option α) (text : List α) : List (Piece α) := piecesFrom pattern text.length before text

def Piece.written (marker : List α) : Piece α → List α
  | .plain c => [c]
  | .hit kept => kept ++ marker

def Piece.hits : Piece α → Nat
  | .plain _ => 0
  | .hit _ => 1

def sub (marker : List α) (before : Option α) (text : List α) : List α :=
  (pieces pattern before text).flatMap (Piece.written marker)

def hits (before : Option α) (text : List α) : Nat := ((pieces pattern before text).map Piece.hits).sum

variable {pattern} {marker : List α}

theorem find_shorter (found : pattern.find before text = some (kept,rest)) : rest.length < text.length := by
  obtain ⟨hidden,some',whole⟩ := pattern.splits found
  have positive := List.length_pos_iff.mpr some'
  rw [whole]
  simp only [List.length_append]
  omega

theorem find_nil (before : Option α) : pattern.find before [] = none := by
  cases found : pattern.find before [] with
  | none => rfl
  | some hit => exact absurd (find_shorter found) (by simp)

theorem piecesFrom_enough (text : List α) (before : Option α) (fuel : Nat) (enough : text.length ≤ fuel) :
    piecesFrom pattern fuel before text = pieces pattern before text := by
  induction fuel using Nat.strongRecOn generalizing text before with
  | ind fuel ih =>
    cases text with
    | nil => cases fuel <;> rfl
    | cons c text =>
      cases fuel with
      | zero => exact absurd enough (by simp)
      | succ fuel =>
        simp only [List.length_cons,Nat.add_le_add_iff_right] at enough
        rw [pieces,List.length_cons,piecesFrom,piecesFrom]
        cases found : pattern.find before (c :: text) with
        | none =>
          have same := ih fuel (by omega) text (some c) enough
          dsimp only
          rw [same,pieces]
        | some hit =>
          obtain ⟨kept,rest⟩ := hit
          have bound := find_shorter found
          rw [List.length_cons] at bound
          have here := ih fuel (by omega) rest none (by omega)
          dsimp only
          rw [here]
          by_cases equal : fuel = text.length
          · rw [← equal,here]
          · rw [ih text.length (by omega) rest none (by omega)]

@[simp] theorem pieces_nil (before : Option α) : pieces pattern before [] = [] := rfl

theorem pieces_missed (missed : pattern.find before (c :: text) = none) :
    pieces pattern before (c :: text) = .plain c :: pieces pattern (some c) text := by
  rw [pieces,List.length_cons,piecesFrom,missed]
  rfl

theorem pieces_found (found : pattern.find before text = some (kept,rest)) :
    pieces pattern before text = .hit kept :: pieces pattern none rest := by
  cases text with
  | nil => rw [find_nil] at found; cases found
  | cons c text =>
    have bound := find_shorter found
    rw [List.length_cons] at bound
    rw [pieces,List.length_cons,piecesFrom,found]
    dsimp only
    rw [piecesFrom_enough rest none text.length (by omega)]

-- How a text falls apart.
theorem pieces_induction {motive : Option α → List α → Prop} (nil : ∀ before, motive before [])
    (missed : ∀ before c text, pattern.find before (c :: text) = none → motive (some c) text → motive before (c :: text))
    (found : ∀ before text kept rest, pattern.find before text = some (kept,rest) → motive none rest → motive before text)
    (before : Option α) (text : List α) : motive before text := by
  induction size : text.length using Nat.strongRecOn generalizing text before with
  | ind size ih =>
    subst size
    cases text with
    | nil => exact nil before
    | cons c text =>
      cases here : pattern.find before (c :: text) with
      | none =>
        apply missed before c text here
        exact ih text.length (by simp) (some c) text rfl
      | some hit =>
        obtain ⟨kept,rest⟩ := hit
        apply found before (c :: text) kept rest here
        exact ih rest.length (find_shorter here) none rest rfl

@[simp] theorem sub_nil (before : Option α) : sub pattern marker before [] = [] := rfl

theorem sub_missed (missed : pattern.find before (c :: text) = none) :
    sub pattern marker before (c :: text) = c :: sub pattern marker (some c) text := by
  simp [sub,pieces_missed missed,Piece.written]

theorem sub_found (found : pattern.find before text = some (kept,rest)) :
    sub pattern marker before text = kept ++ (marker ++ sub pattern marker none rest) := by
  simp [sub,pieces_found found,Piece.written]

@[simp] theorem hits_nil (before : Option α) : hits pattern before [] = 0 := rfl

theorem hits_missed (missed : pattern.find before (c :: text) = none) :
    hits pattern before (c :: text) = hits pattern (some c) text := by
  simp [hits,pieces_missed missed,Piece.hits]

theorem hits_found (found : pattern.find before text = some (kept,rest)) :
    hits pattern before text = hits pattern none rest + 1 := by
  simp [hits,pieces_found found,Piece.hits,Nat.add_comm]

-- A text in which nothing is found stays.
theorem sub_without (none' : hits pattern before text = 0) : sub pattern marker before text = text := by
  induction before,text using @pieces_induction α pattern with
  | nil before => rfl
  | missed before c text missed ih =>
    rw [hits_missed missed] at none'
    rw [sub_missed missed,ih none']
  | found before text kept rest found ih =>
    rw [hits_found found] at none'
    omega

/- What a list of which the marker's first item is no part has to do with the text before
the replacement. -/

section opening
variable {opening : α} {more : List α} (starts : marker = opening :: more)
include starts

theorem prefix_sub (absent : opening ∉ part) (here : part <+: sub pattern marker before text) : part <+: text := by
  induction before,text using @pieces_induction α pattern generalizing part with
  | nil before => exact here
  | missed before c text missed ih =>
    rw [sub_missed missed] at here
    cases part with
    | nil => exact List.nil_prefix
    | cons d part =>
      obtain ⟨rfl,rest⟩ := List.cons_prefix_cons.mp here
      exact List.cons_prefix_cons.mpr ⟨rfl,ih (fun inside => absent (.tail _ inside)) rest⟩
  | found before text kept rest found ih =>
    obtain ⟨hidden,_,whole⟩ := pattern.splits found
    rw [sub_found found,starts] at here
    rcases Substrings.prefix_append_cases here with inside | ⟨later,some',shape,follows⟩
    · rw [whole]
      exact inside.trans (List.prefix_append _ _)
    · obtain ⟨first,tail,split⟩ := List.exists_cons_of_ne_nil some'
      rw [split,List.cons_append] at follows
      have same := (List.cons_prefix_cons.mp follows).1
      exact absurd (by simp [shape,split,same]) absent

-- The item after it stood there too, or a hidden one did.
theorem kept_head {hides : α → Prop} (hidden : ∀ {before text kept rest}, pattern.find before text = some (kept,rest) →
      ∃ first hidden, hides first ∧ text = kept ++ (first :: hidden ++ rest))
    {part tail : List α} {next : α} (absent : opening ∉ part) (split : sub pattern marker before text = part ++ next :: tail) :
    ∃ first rest, text = part ++ first :: rest ∧ (first = next ∨ hides first) := by
  induction before,text using @pieces_induction α pattern generalizing part with
  | nil before => exact absurd split (by simp)
  | missed before c text missed ih =>
    rw [sub_missed missed] at split
    cases part with
    | nil =>
      obtain ⟨rfl,_⟩ := List.cons.inj split
      exact ⟨c,text,rfl,.inl rfl⟩
    | cons d part =>
      obtain ⟨rfl,later⟩ := List.cons.inj split
      obtain ⟨first,rest,rfl,same⟩ := ih (fun inside => absent (.tail _ inside)) later
      exact ⟨first,rest,rfl,same⟩
  | found before text kept rest found ih =>
    obtain ⟨first,covered,secret,whole⟩ := hidden found
    rw [sub_found found,starts] at split
    rcases List.append_eq_append_iff.mp split with ⟨later,longer,shape⟩ | ⟨later,longer,shape⟩
    · cases later with
      | nil => exact ⟨first,covered ++ rest,by simp [whole,longer],.inr secret⟩
      | cons d later =>
        rw [List.cons_append,List.cons_append] at shape
        obtain ⟨rfl,_⟩ := List.cons.inj shape
        exact absurd (by simp [longer]) absent
    · cases later with
      | nil => exact ⟨first,covered ++ rest,by simp [whole,longer],.inr secret⟩
      | cons d later =>
        obtain ⟨rfl,_⟩ := List.cons.inj shape
        exact ⟨next,later ++ (first :: covered ++ rest),by simp [whole,longer],.inl rfl⟩

end opening

/- A second pass finds every match again, and leaves a residue of the marker behind it. -/

variable (pattern marker) in
structure Leaves (residue : List α) : Prop where
  found : pattern.find before text = some (kept,rest) →
    pattern.find before (kept ++ (marker ++ sub pattern marker none rest)) =
      some (kept,residue ++ sub pattern marker none rest)
  missed : pattern.find before (c :: text) = none → pattern.find before (c :: sub pattern marker (some c) text) = none
  after : pattern.find before text = some (kept,rest) →
    sub pattern marker none (residue ++ sub pattern marker none rest) =
      residue ++ sub pattern marker none (sub pattern marker none rest)

section leaves
variable {residue : List α} (leaves : Leaves pattern marker residue)
include leaves

theorem find_sub (before : Option α) (text : List α) : pattern.find before (sub pattern marker before text) =
    (pattern.find before text).map (fun hit => (hit.1,residue ++ sub pattern marker none hit.2)) := by
  cases text with
  | nil => rw [sub_nil,find_nil]; rfl
  | cons c text =>
    cases found : pattern.find before (c :: text) with
    | none => rw [sub_missed found,leaves.missed found]; rfl
    | some hit => rw [sub_found found,leaves.found found]; rfl

-- The replaced text tells what the text was like outside of what is hidden.
theorem sub_pieces (same : sub pattern marker before text = sub pattern marker before other) :
    pieces pattern before text = pieces pattern before other := by
  have finds := find_sub leaves before text
  rw [same,find_sub leaves before other] at finds
  induction before,text using @pieces_induction α pattern generalizing other with
  | nil before =>
    cases found : pattern.find before other with
    | some hit =>
      rw [found,find_nil] at finds
      cases finds
    | none =>
      cases other with
      | nil => rfl
      | cons c other =>
        rw [sub_missed found] at same
        cases same
  | missed before c text missed ih =>
    rw [missed,Option.map_none,Option.map_eq_none_iff] at finds
    rw [sub_missed missed] at same
    cases other with
    | nil => cases same
    | cons d other =>
      rw [sub_missed finds] at same
      obtain ⟨rfl,rests⟩ := List.cons.inj same
      have again := find_sub leaves (some c) text
      rw [rests,find_sub leaves (some c) other] at again
      rw [pieces_missed missed,pieces_missed finds,ih rests again]
  | found before text kept rest found ih =>
    rw [found,Option.map_some,Option.map_eq_some_iff] at finds
    obtain ⟨⟨kept',rest'⟩,present,equal⟩ := finds
    obtain ⟨rfl,tails⟩ := Prod.mk.inj equal
    have rests := List.append_cancel_left tails
    have again := find_sub leaves none rest
    rw [← rests,find_sub leaves none rest'] at again
    rw [pieces_found found,pieces_found present,ih rests.symm again]

theorem sub_iff (before : Option α) (text other : List α) : sub pattern marker before text = sub pattern marker before other ↔
      pieces pattern before text = pieces pattern before other := by
  constructor
  · exact sub_pieces leaves
  · intro same
    rw [sub,sub,same]

-- Every match of the first pass makes the second pass longer by the residue.
theorem twice_length (before : Option α) (text : List α) : (sub pattern marker before (sub pattern marker before text)).length =
      (sub pattern marker before text).length + residue.length * hits pattern before text := by
  induction before,text using @pieces_induction α pattern with
  | nil before => simp
  | missed before c text missed ih =>
    rw [sub_missed missed,sub_missed (leaves.missed missed),hits_missed missed,List.length_cons,List.length_cons,ih]
    omega
  | found before text kept rest found ih =>
    have again := find_sub leaves before text
    rw [found,Option.map_some] at again
    rw [sub_found again,sub_found found,leaves.after found,hits_found found,Nat.mul_add]
    simp only [List.length_append,ih]
    omega

theorem twice_iff (some' : residue ≠ []) (before : Option α) (text : List α) :
    sub pattern marker before (sub pattern marker before text) = sub pattern marker before text ↔ hits pattern before text = 0 := by
  constructor
  · intro same
    have long := twice_length leaves before text
    have positive := List.length_pos_iff.mpr some'
    rw [same,Nat.left_eq_add,Nat.mul_eq_zero] at long
    omega
  · intro none'
    rw [sub_without none',sub_without none']

end leaves

/- Patterns whose matches are matches wherever they stand, and share nothing with the
marker that is put in their place. -/

def Matched (pattern : Pattern α) (part : List α) : Prop :=
  ∃ before kept rest, pattern.find before (part ++ rest) = some (kept,rest)

variable (pattern) in
structure Loose (opening : α) (body : List α) (closing : α) : Prop where
  hides : pattern.find before text = some (kept,rest) → kept = []
  anywhere : Matched pattern part → ∀ before rest, pattern.find before (part ++ rest) ≠ none
  bare : Matched pattern part → opening ∉ part ∧ closing ∉ part
  strange : Matched pattern part → ∃ c ∈ part, c ∉ opening :: (body ++ [closing])

-- No match stands anywhere in the text.
def Clear (pattern : Pattern α) (text : List α) : Prop := ∀ part, Matched pattern part → Free part text

theorem clear_fixed (clear : Clear pattern text) : sub pattern marker before text = text := by
  induction before,text using @pieces_induction α pattern with
  | nil before => rfl
  | missed before c text missed ih =>
    rw [sub_missed missed,ih (fun part matched => (free_cons.mp (clear part matched)).2)]
  | found before text kept rest found ih =>
    obtain ⟨hidden,_,whole⟩ := pattern.splits found
    rw [← List.append_assoc] at whole
    rw [whole] at found
    have inside : kept ++ hidden <:+: text := by
      rw [whole]
      exact (List.prefix_append _ _).isInfix
    exact absurd inside (clear _ ⟨before,kept,rest,found⟩)

section loose
variable {opening closing : α} {body : List α} (loose : Loose pattern opening body closing)
include loose

theorem marker_free (matched : Matched pattern part) : Free part (opening :: (body ++ [closing])) := by
  obtain ⟨c,inside,absent⟩ := loose.strange matched
  exact free_absent inside absent

-- What stands around a marker does not meet over it.
theorem free_around (matched : Matched pattern part) (left : Free part kept) (right : Free part rest) :
    Free part (kept ++ (opening :: (body ++ [closing]) ++ rest)) := by
  obtain ⟨noOpening,noClosing⟩ := loose.bare matched
  apply free_append left
  · apply free_append (marker_free loose matched) right
    apply Or.inr
    intro c last
    rw [← List.cons_append,List.getLast?_concat] at last
    have same : closing = c := Option.some.inj last
    rw [← same]
    exact fun inside => noClosing (List.mem_of_mem_dropLast inside)
  · apply Or.inl
    intro c first
    have same : opening = c := by simpa using first
    rw [← same]
    exact fun inside => noOpening (List.mem_of_mem_tail inside)

-- Another pattern's replacements bring no match about.
theorem clear_sub (other : Pattern α) (clear : Clear pattern text) :
    Clear pattern (sub other (opening :: (body ++ [closing])) before text) := by
  induction before,text using @pieces_induction α other with
  | nil before => exact clear
  | missed before c text missed ih =>
    intro part matched
    have later := ih (fun part matched => (free_cons.mp (clear part matched)).2) part matched
    rw [sub_missed missed,free_cons]
    refine ⟨?_,later⟩
    intro here
    rw [← sub_missed missed] at here
    have there := prefix_sub rfl (loose.bare matched).1 here
    exact (free_cons.mp (clear part matched)).1 there
  | found before text kept rest found ih =>
    intro part matched
    obtain ⟨hidden,_,whole⟩ := other.splits found
    rw [sub_found found]
    apply free_around loose matched
    · exact free_part (clear part matched) (by rw [whole]; exact (List.prefix_append _ _).isInfix)
    · apply ih _ part matched
      intro part matched
      apply free_part (clear part matched)
      rw [whole,← List.append_assoc]
      exact (List.suffix_append _ _).isInfix

-- Nor do a pattern's own.
theorem clear_self (text : List α) : Clear pattern (sub pattern (opening :: (body ++ [closing])) before text) := by
  induction before,text using @pieces_induction α pattern with
  | nil before =>
    intro part matched
    apply Substrings.free_nil
    intro empty
    obtain ⟨c,inside,_⟩ := loose.strange matched
    rw [empty] at inside
    cases inside
  | missed before c text missed ih =>
    intro part matched
    rw [sub_missed missed,free_cons]
    refine ⟨?_,ih part matched⟩
    intro here
    rw [← sub_missed missed] at here
    obtain ⟨rest,whole⟩ := prefix_sub rfl (loose.bare matched).1 here
    have again := loose.anywhere matched before rest
    rw [whole] at again
    exact again missed
  | found before text kept rest found ih =>
    intro part matched
    rw [sub_found found,loose.hides found]
    apply free_around loose matched
    · exact free_part (marker_free loose matched) (List.nil_prefix.isInfix)
    · exact ih part matched

end loose

end OpenStock.Substitution
