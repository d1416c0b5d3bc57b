import OpenStock.Foundations.Replacement

namespace OpenStock.Substrings
open Replacement
variable [DecidableEq α] {marker text left right : List α}

-- The parts before and after the first occurrence of a marker.
def cut (marker : List α) : List α → Option (List α × List α)
  | [] => if marker = [] then some ([],[]) else none
  | c :: text =>
    if marker <+: c :: text then some ([],(c :: text).drop marker.length)
    else (cut marker text).map (fun parts => (c :: parts.1,parts.2))

-- A marker that is written over, as a pattern.
def literal (marker cover : List α) (present : marker ≠ []) (visible : cover ≠ []) : Pattern α Unit where
  find text := if marker <+: text then some ((),text.drop marker.length) else none
  cover _ := cover
  shorter := by
    intro text captured rest found
    split at found
    · rename_i here
      cases found
      have size := here.length_le
      have positive : 0 < marker.length := List.length_pos_iff.mpr present
      rw [List.length_drop]
      omega
    · cases found
  visible := visible

-- Non-overlapping occurrences, from the left; the first argument counts what is
-- left to skip of the last one.
def occurrencesFrom (marker : List α) : Nat → List α → Nat
  | _,[] => 0
  | skip + 1,_ :: text => occurrencesFrom marker skip text
  | 0,c :: text =>
    if marker <+: c :: text then occurrencesFrom marker (marker.length - 1) text + 1 else occurrencesFrom marker 0 text

def occurrences (marker text : List α) : Nat := occurrencesFrom marker 0 text

/- A text that a marker does not occur in. -/

def Free (marker text : List α) : Prop := ¬ marker <:+: text

omit [DecidableEq α] in
theorem free_nil (present : marker ≠ []) : Free marker [] := fun inside => present (List.infix_nil.mp inside)

variable {c : α}

omit [DecidableEq α] in
theorem free_cons : Free marker (c :: text) ↔ ¬ marker <+: c :: text ∧ Free marker text := by
  unfold Free
  rw [List.infix_cons_iff,not_or]

omit [DecidableEq α] in
theorem free_absent (inside : c ∈ marker) (absent : c ∉ text) : Free marker text :=
  fun occurs => absent (occurs.subset inside)

omit [DecidableEq α] in
theorem free_part (free : Free marker text) (part : left <:+: text) : Free marker left := fun occurs => free (occurs.trans part)

omit [DecidableEq α] in
theorem free_longer (part : left <:+: marker) (free : Free left text) : Free marker text := fun occurs => free (part.trans occurs)

omit [DecidableEq α] in
-- An occurrence across the border of two texts takes the last of the one and the
-- first of the other.
theorem prefix_append_cases (here : marker <+: left ++ right) :
    marker <+: left ∨ ∃ part, part ≠ [] ∧ marker = left ++ part ∧ part <+: right := by
  rcases List.prefix_or_prefix_of_prefix here (List.prefix_append left right) with inside | ⟨part,whole⟩
  · exact .inl inside
  · by_cases empty : part = []
    · rw [empty,List.append_nil] at whole
      rw [whole]
      exact .inl List.prefix_rfl
    · refine .inr ⟨part,empty,whole.symm,?_⟩
      rw [←whole] at here
      exact (List.prefix_append_right_inj left).mp here

-- No occurrence of the marker crosses the border.
def Border (marker left right : List α) : Prop :=
  (∀ c ∈ right.head?, c ∉ marker.tail) ∨ (∀ c ∈ left.getLast?, c ∉ marker.dropLast)

omit [DecidableEq α] in
theorem border_crossed (border : Border marker left right) (some' : left ≠ []) (rest : part ≠ [])
    (here : marker = left ++ part) (follows : part <+: right) : False := by
  obtain ⟨first,tail,shape⟩ := List.exists_cons_of_ne_nil rest
  obtain ⟨before,last,shape'⟩ := List.eq_nil_or_concat left |>.resolve_left some'
  rcases border with head | end'
  · obtain ⟨more,whole⟩ := follows
    apply head first (by rw [←whole,shape]; rfl)
    obtain ⟨one,others,shape''⟩ := List.exists_cons_of_ne_nil some'
    rw [here,shape'',List.cons_append,List.tail_cons,shape]
    simp
  · apply end' last (by rw [shape']; simp)
    rw [here,shape',shape,List.dropLast_append_of_ne_nil (by simp)]
    simp

omit [DecidableEq α] in
theorem border_tail (border : Border marker (c :: left) right) (some' : left ≠ []) : Border marker left right := by
  rcases border with head | end'
  · exact .inl head
  · apply Or.inr
    intro d last
    apply end' d
    rw [List.getLast?_cons]
    obtain ⟨final,shape⟩ := Option.ne_none_iff_exists'.mp (show left.getLast? ≠ none by simpa using some')
    rw [shape] at last ⊢
    simpa using last

omit [DecidableEq α] in
theorem free_append (freeLeft : Free marker left) (freeRight : Free marker right) (border : Border marker left right) :
    Free marker (left ++ right) := by
  induction left with
  | nil => exact freeRight
  | cons c left ih =>
    obtain ⟨start,rest⟩ := free_cons.mp freeLeft
    rw [List.cons_append,free_cons]
    constructor
    · intro here
      rcases prefix_append_cases (show marker <+: (c :: left) ++ right from here) with inside | ⟨part,some',shape,follows⟩
      · exact start inside
      · exact border_crossed border (List.cons_ne_nil c left) some' shape follows
    · by_cases empty : left = []
      · rw [empty]
        exact freeRight
      · exact ih rest (border_tail border empty)

omit [DecidableEq α] in
-- Searching past a text that the marker does not occur in.
theorem not_prefix_append (free : Free marker (c :: left)) (border : Border marker (c :: left) right) :
    ¬ marker <+: c :: (left ++ right) := by
  intro here
  rcases prefix_append_cases (show marker <+: (c :: left) ++ right from here) with inside | ⟨part,some',shape,follows⟩
  · exact (free_cons.mp free).1 inside
  · exact border_crossed border (List.cons_ne_nil c left) some' shape follows

theorem cut_past (free : Free marker left) (border : Border marker left right) :
    cut marker (left ++ right) = (cut marker right).map (fun parts => (left ++ parts.1,parts.2)) := by
  induction left with
  | nil => simp
  | cons c left ih =>
    rw [List.cons_append,cut,if_neg (not_prefix_append free border)]
    by_cases empty : left = []
    · rw [empty,List.nil_append]
      rfl
    · rw [ih (free_cons.mp free).2 (border_tail border empty),Option.map_map]
      rfl

theorem cut_here (present : marker ≠ []) (text : List α) : cut marker (marker ++ text) = some ([],text) := by
  obtain ⟨c,rest,shape⟩ := List.exists_cons_of_ne_nil present
  have here : marker <+: c :: (rest ++ text) := by
    rw [shape]
    exact List.prefix_append (c :: rest) text
  have gone : (c :: (rest ++ text)).drop marker.length = text := by
    rw [shape]
    simp
  have whole : marker ++ text = c :: (rest ++ text) := by rw [shape,List.cons_append]
  rw [whole,cut,if_pos here,gone]

-- The first occurrence of a marker after a text it does not occur in.
theorem cut_first (present : marker ≠ []) (free : Free marker left) (border : Border marker left (marker ++ right)) :
    cut marker (left ++ (marker ++ right)) = some (left,right) := by
  rw [cut_past free border,cut_here present]
  simp

section replacing
variable {cover : List α} {present : marker ≠ []} {visible : cover ≠ []}

theorem literal_find (text : List α) :
    (literal marker cover present visible).find text = if marker <+: text then some ((),text.drop marker.length) else none := rfl

theorem replace_past (free : Free marker left) (border : Border marker left right) :
    replaceAll (literal marker cover present visible) (left ++ right) =
      left ++ replaceAll (literal marker cover present visible) right := by
  induction left with
  | nil => rfl
  | cons c left ih =>
    have missed : (literal marker cover present visible).find (c :: (left ++ right)) = none := by
      rw [literal_find,if_neg (not_prefix_append free border)]
    rw [List.cons_append,replaceAll_missed missed]
    by_cases empty : left = []
    · rw [empty]
      rfl
    · rw [ih (free_cons.mp free).2 (border_tail border empty)]
      rfl

theorem replace_free (free : Free marker text) : replaceAll (literal marker cover present visible) text = text := by
  have past : replaceAll (literal marker cover present visible) (text ++ []) =
    text ++ replaceAll (literal marker cover present visible) [] := replace_past free (.inl (by simp))
  simpa using past

theorem replace_here (text : List α) : replaceAll (literal marker cover present visible) (marker ++ text) =
    cover ++ replaceAll (literal marker cover present visible) text := by
  have found : (literal marker cover present visible).find (marker ++ text) = some ((),text) := by
    rw [literal_find,if_pos (List.prefix_append marker text),List.drop_left]
  rw [replaceAll_found found]
  rfl

theorem literal_hit (found : (literal marker cover present visible).find text = some (captured,rest)) :
    text = marker ++ rest := by
  rw [literal_find] at found
  split at found
  · rename_i here
    obtain ⟨tail,shape⟩ := here
    cases found
    rw [←shape,List.drop_left]
  · cases found

-- Where the cover holds more of something than the marker, a text is as it was
-- only if nothing was replaced.
theorem replace_grows (more : marker.countP test < cover.countP test) (text : List α) :
    text.countP test ≤ (replaceAll (literal marker cover present visible) text).countP test ∧
      (Free marker text ∨ text.countP test < (replaceAll (literal marker cover present visible) text).countP test) := by
  induction text using @pieces_induction α Unit (literal marker cover present visible) with
  | nil => exact ⟨Nat.le_refl _,.inl (free_nil present)⟩
  | missed c text missed ih =>
    have absent : ¬ marker <+: c :: text := by
      intro here
      rw [literal_find,if_pos here] at missed
      cases missed
    rw [replaceAll_missed missed,List.countP_cons,List.countP_cons]
    refine ⟨by omega,?_⟩
    rcases ih.2 with free | grown
    · exact .inl (free_cons.mpr ⟨absent,free⟩)
    · exact .inr (by omega)
  | found text captured rest found ih =>
    have shape := literal_hit found
    rw [replaceAll_found found,List.countP_append]
    have covered : (literal marker cover present visible).cover captured = cover := rfl
    have size : text.countP test = marker.countP test + rest.countP test := by
      rw [shape,List.countP_append]
    rw [covered]
    exact ⟨by omega,.inr (by omega)⟩

-- Replacing on the two sides of a place that no occurrence reaches over.
theorem replace_append (apart : ∀ c ∈ right.head?, c ∉ marker) (text : List α) :
    replaceAll (literal marker cover present visible) (text ++ right) =
      replaceAll (literal marker cover present visible) text ++ replaceAll (literal marker cover present visible) right := by
  induction text using @pieces_induction α Unit (literal marker cover present visible) with
  | nil => rfl
  | missed c text missed ih =>
    have absent : ¬ marker <+: c :: (text ++ right) := by
      intro here
      rcases prefix_append_cases (show marker <+: (c :: text) ++ right from here) with inside | ⟨part,some',shape,follows⟩
      · rw [literal_find,if_pos inside] at missed
        cases missed
      · obtain ⟨first,tail,split⟩ := List.exists_cons_of_ne_nil some'
        obtain ⟨behind,whole⟩ := follows
        apply apart first (by simp [← whole,split])
        simp [shape,split]
    have missed' : (literal marker cover present visible).find (c :: (text ++ right)) = none := by
      rw [literal_find,if_neg absent]
    rw [List.cons_append,replaceAll_missed missed',replaceAll_missed missed,ih,List.cons_append]
  | found text captured rest found ih =>
    rw [replaceAll_found found,literal_hit found,List.append_assoc,replace_here,ih,List.append_assoc]
    rfl

/- Lists without an item that the marker and its cover both come to after the same start. -/

section lasting
variable {mark start after after' : List α} {q : α} (absent : q ∉ mark) (shape : marker = start ++ q :: after)
  (shape' : cover = start ++ q :: after')
include absent shape shape'

theorem prefix_replaced {text : List α} (here : mark <+: replaceAll (literal marker cover present visible) text) : mark <+: text := by
  induction text using @pieces_induction α Unit (literal marker cover present visible) generalizing mark with
  | nil => exact here
  | missed c text missed ih =>
    rw [replaceAll_missed missed] at here
    cases mark with
    | nil => exact List.nil_prefix
    | cons d mark =>
      obtain ⟨rfl,rest⟩ := List.cons_prefix_cons.mp here
      exact List.cons_prefix_cons.mpr ⟨rfl,ih (fun inside => absent (.tail _ inside)) rest⟩
  | found text captured rest found ih =>
    have whole := literal_hit found
    have covered : (literal marker cover present visible).cover captured = start ++ q :: after' := shape'
    rw [replaceAll_found found,covered,List.append_assoc] at here
    rcases prefix_append_cases here with inside | ⟨part,some',split,follows⟩
    · rw [whole,shape,List.append_assoc]
      exact inside.trans (List.prefix_append _ _)
    · obtain ⟨first,tail,split'⟩ := List.exists_cons_of_ne_nil some'
      rw [split',List.cons_append] at follows
      have same := (List.cons_prefix_cons.mp follows).1
      exact absurd (by simp [split,split',same]) absent

theorem free_replaced {text : List α} (coverFree : Free mark cover) (apart : ∀ c ∈ cover.getLast?, c ∉ mark) (free : Free mark text) :
    Free mark (replaceAll (literal marker cover present visible) text) := by
  induction text using @pieces_induction α Unit (literal marker cover present visible) with
  | nil => exact free
  | missed c text missed ih =>
    have later := ih (free_cons.mp free).2
    rw [replaceAll_missed missed,free_cons]
    refine ⟨?_,later⟩
    intro here
    rw [← replaceAll_missed missed] at here
    exact (free_cons.mp free).1 (prefix_replaced absent shape shape' here)
  | found text captured rest found ih =>
    have whole := literal_hit found
    have later := ih (free_part free (by rw [whole]; exact (List.suffix_append _ _).isInfix))
    rw [replaceAll_found found]
    apply free_append coverFree later
    exact .inr (fun c last inside => apart c last (List.mem_of_mem_dropLast inside))

end lasting

end replacing

/- Counting. -/

theorem occurrences_past (free : Free marker left) (border : Border marker left right) :
    occurrences marker (left ++ right) = occurrences marker right := by
  unfold occurrences
  induction left with
  | nil => rfl
  | cons c left ih =>
    rw [List.cons_append,occurrencesFrom,if_neg (not_prefix_append free border)]
    by_cases empty : left = []
    · rw [empty]
      rfl
    · exact ih (free_cons.mp free).2 (border_tail border empty)

theorem occurrencesFrom_skip (text : List α) : occurrencesFrom marker left.length (left ++ text) = occurrencesFrom marker 0 text := by
  induction left with
  | nil => rfl
  | cons c left ih => exact ih

theorem occurrences_here (present : marker ≠ []) (text : List α) :
    occurrences marker (marker ++ text) = occurrences marker text + 1 := by
  obtain ⟨c,rest,shape⟩ := List.exists_cons_of_ne_nil present
  have here : marker <+: c :: (rest ++ text) := by
    rw [shape]
    exact List.prefix_append (c :: rest) text
  have whole : marker ++ text = c :: (rest ++ text) := by rw [shape,List.cons_append]
  have size : marker.length - 1 = rest.length := by rw [shape,List.length_cons,Nat.add_sub_cancel]
  unfold occurrences
  rw [whole,occurrencesFrom,if_pos here,size,occurrencesFrom_skip]

theorem occurrences_free (free : Free marker text) : occurrences marker text = 0 := by
  have past : occurrences marker (text ++ []) = occurrences marker [] := occurrences_past free (.inl (by simp))
  rw [List.append_nil] at past
  exact past

-- A marker between two texts it does not occur in.
theorem occurrences_once (present : marker ≠ []) (freeLeft : Free marker left) (border : Border marker left (marker ++ right))
    (freeRight : Free marker right) : occurrences marker (left ++ (marker ++ right)) = 1 := by
  rw [occurrences_past freeLeft border,occurrences_here present,occurrences_free freeRight]

end OpenStock.Substrings
