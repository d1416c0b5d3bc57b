import OpenStock.Foundations.Substrings
import OpenStock.Foundations.Text

namespace OpenStock.TextLines
open Substrings

-- What reading in text mode makes of line ends.
def universalNewlines : Text → Text
  | [] => []
  | '\r' :: '\n' :: text => '\n' :: universalNewlines text
  | '\r' :: text => '\n' :: universalNewlines text
  | c :: text => c :: universalNewlines text

-- The line boundaries of `str.splitlines`.
def isLineBreak (c : Char) : Bool :=
  let code := c.toNat
  (10 ≤ code && code ≤ 13) || (28 ≤ code && code ≤ 30) || code == 133 || code == 8232 || code == 8233

-- `returned` tells whether the last character was a carriage return: a newline
-- after it ends no further line.
def splitlinesFrom : Bool → Text → Text → List Text
  | _,line,[] => if line.isEmpty then [] else [line]
  | returned,line,c :: text =>
    if returned && c == '\n' then splitlinesFrom false line text
    else if isLineBreak c then line :: splitlinesFrom (c == '\r') [] text
    else splitlinesFrom false (line ++ [c]) text

def splitlines (text : Text) : List Text := splitlinesFrom false [] text

def unlines (lines : List Text) : Text := lines.flatMap (fun line => line ++ ['\n'])

def Unbroken (line : Text) : Prop := ∀ c ∈ line, isLineBreak c = false

theorem universal_clean (text : Text) : '\r' ∉ universalNewlines text := by
  induction text using universalNewlines.induct with
  | case1 => simp [universalNewlines]
  | case2 text ih => simp [universalNewlines,ih]
  | case3 text _ ih =>
    rw [universalNewlines]
    · simp [ih]
    · assumption
  | case4 c text _ other ih =>
    rw [universalNewlines]
    · simp [ih,Ne.symm other]
    · assumption
    · assumption

theorem universal_kept (plain : '\r' ∉ text) : universalNewlines text = text := by
  induction text with
  | nil => rfl
  | cons c text ih =>
    simp only [List.mem_cons,not_or] at plain
    rw [universalNewlines]
    · rw [ih plain.2]
    · intro rest same
      exact absurd same.symm plain.1
    · intro same
      exact absurd same.symm plain.1

theorem universal_append (plain : '\r' ∉ left) (right : Text) : universalNewlines (left ++ right) = left ++ universalNewlines right := by
  induction left with
  | nil => rfl
  | cons c left ih =>
    simp only [List.mem_cons,not_or] at plain
    rw [List.cons_append,universalNewlines]
    · rw [ih plain.2]
      rfl
    · intro rest same
      exact absurd same.symm plain.1
    · intro same
      exact absurd same.symm plain.1

-- What is split off has no boundary in it.
theorem splitlinesFrom_unbroken (returned : Bool) (line text : Text) (begun : Unbroken line) :
    ∀ part ∈ splitlinesFrom returned line text, Unbroken part := by
  induction text generalizing returned line with
  | nil =>
    intro part listed
    unfold splitlinesFrom at listed
    split at listed
    · cases listed
    · rw [List.mem_singleton.mp listed]
      exact begun
  | cons c text ih =>
    unfold splitlinesFrom
    split
    · exact ih false line begun
    · split
      · intro part listed
        rcases List.mem_cons.mp listed with rfl | later
        · exact begun
        · exact ih _ [] (fun _ inside => nomatch inside) part later
      · rename_i plain
        apply ih
        intro d inside
        rcases List.mem_append.mp inside with early | last
        · exact begun d early
        · rw [List.mem_singleton.mp last]
          simpa using plain

theorem splitlines_unbroken (text : Text) : ∀ line ∈ splitlines text, Unbroken line :=
  splitlinesFrom_unbroken false [] text (fun _ inside => nomatch inside)

/- Lines that are written one after another are read back. -/

variable {line : Text}

theorem split_line (unbroken : Unbroken line) (start rest : Text) :
    splitlinesFrom false start (line ++ '\n' :: rest) = (start ++ line) :: splitlinesFrom false [] rest := by
  induction line generalizing start with
  | nil =>
    have newline : isLineBreak '\n' = true := by decide
    simp [splitlinesFrom,newline]
  | cons c line ih =>
    have plain := unbroken c List.mem_cons_self
    rw [List.cons_append,splitlinesFrom,plain]
    simp only [Bool.false_and,Bool.false_eq_true,if_false]
    rw [ih (fun d inside => unbroken d (List.mem_cons_of_mem _ inside)),List.append_assoc]
    rfl

theorem split_last (unbroken : Unbroken line) (start : Text) (some' : start ++ line ≠ []) :
    splitlinesFrom false start line = [start ++ line] := by
  induction line generalizing start with
  | nil =>
    rw [List.append_nil] at some' ⊢
    simp [splitlinesFrom,some']
  | cons c line ih =>
    have plain := unbroken c List.mem_cons_self
    rw [splitlinesFrom,plain]
    simp only [Bool.false_and,Bool.false_eq_true,if_false]
    rw [ih (fun d inside => unbroken d (List.mem_cons_of_mem _ inside)) _ (by simp),List.append_assoc]
    rfl

variable {lines : List Text}

theorem splitlines_unlines (unbroken : ∀ line ∈ lines, Unbroken line) (rest : Text) :
    splitlines (unlines lines ++ rest) = lines ++ splitlines rest := by
  unfold splitlines
  induction lines with
  | nil => rfl
  | cons line lines ih =>
    have here := split_line (unbroken line List.mem_cons_self) [] (unlines lines ++ rest)
    have whole : unlines (line :: lines) ++ rest = line ++ '\n' :: (unlines lines ++ rest) := by simp [unlines]
    rw [whole,here,ih (fun other inside => unbroken other (List.mem_cons_of_mem _ inside))]
    rfl

theorem unlines_plain (unbroken : ∀ line ∈ lines, Unbroken line) : '\r' ∉ unlines lines := by
  intro inside
  obtain ⟨line,listed,here⟩ := List.mem_flatMap.mp inside
  rcases List.mem_append.mp here with own | newline
  · have broken : isLineBreak '\r' = true := by decide
    rw [unbroken line listed '\r' own] at broken
    cases broken
  · simp at newline

theorem joined_unlines (line : Text) (lines : List Text) :
    List.intercalate ['\n'] (line :: lines) ++ ['\n'] = unlines (line :: lines) := by
  induction lines generalizing line with
  | nil => simp [List.intercalate,unlines]
  | cons next lines ih =>
    have later := ih next
    simp only [List.intercalate,List.intersperse,List.flatten_cons,unlines,List.flatMap_cons] at later ⊢
    simp only [List.append_assoc] at later ⊢
    rw [later]

/- Markers in such a text. -/

theorem line_newline (unbroken : Unbroken line) : '\n' ∉ line := by
  intro inside
  have broken := unbroken '\n' inside
  revert broken
  decide

theorem free_unlines (present : marker ≠ []) (apart : '\n' ∉ marker)
    (free : ∀ line ∈ lines, Free marker line) : Free marker (unlines lines) := by
  obtain ⟨first,rest,shape⟩ := List.exists_cons_of_ne_nil present
  have newline : Free marker ['\n'] := by
    apply free_absent (show first ∈ marker by simp [shape])
    intro same
    rw [List.mem_singleton.mp same] at shape
    exact apart (by simp [shape])
  induction lines with
  | nil => exact free_nil present
  | cons line lines ih =>
    have later := ih (fun other inside => free other (List.mem_cons_of_mem _ inside))
    have here : Free marker (line ++ ['\n']) := by
      apply free_append (free line List.mem_cons_self) newline
      apply Or.inl
      intro c head
      cases head
      exact fun inside => apart (List.mem_of_mem_tail inside)
    apply free_append here later
    apply Or.inr
    intro c last
    simp only [List.getLast?_concat,Option.mem_def,Option.some.injEq] at last
    subst last
    exact fun inside => apart (List.mem_of_mem_dropLast inside)

-- No line but the first begins with `c`.
theorem free_begun (other : c ≠ '\n')
    (begun : ∀ line ∈ lines ++ [last], '\n' ∉ line ∧ c ∉ line.head?) : Free ['\n',c] (unlines lines ++ last) := by
  have single : ∀ line : Text, '\n' ∉ line → Free ['\n',c] line := fun line plain => free_absent List.mem_cons_self plain
  induction lines with
  | nil => exact single last (begun last (by simp)).1
  | cons line lines ih =>
    have later := ih (fun other inside => begun other (by simp at inside ⊢; exact .inr inside))
    have first : c ∉ (unlines lines ++ last).head? := by
      cases lines with
      | nil => exact (begun last (by simp)).2
      | cons next lines =>
        have follows := (begun next (by simp)).2
        cases next with
        | nil => simp [unlines,Ne.symm other]
        | cons d next => simpa [unlines] using follows
    have whole : unlines (line :: lines) ++ last = line ++ '\n' :: (unlines lines ++ last) := by simp [unlines]
    have plain := (begun line (by simp)).1
    rw [whole]
    apply free_append (single line plain)
    · rw [free_cons]
      refine ⟨?_,later⟩
      intro ⟨rest,shape⟩
      apply first
      rw [← List.singleton_append,List.cons_append] at shape
      injection shape with _ shape
      rw [← shape]
      rfl
    · apply Or.inr
      intro d final
      simp only [List.dropLast_cons_cons,List.dropLast_singleton,List.mem_singleton]
      intro same
      subst same
      exact plain (List.mem_of_mem_getLast? final)

end OpenStock.TextLines
