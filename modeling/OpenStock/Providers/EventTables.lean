import OpenStock.Providers.CorporateEvents

namespace OpenStock.Providers.Events
open Text CorporateActions Queue

/- The table of a response: one column for each key of any record. -/

def ProviderEvent.cell (event : ProviderEvent) (column : Text) : Option Json := Json.lookup event.members column

-- In the order of their first appearance.
def columns (response : List ProviderEvent) : List Text :=
  (response.flatMap (fun event => event.members.map Prod.fst)).eraseDups

def isMissing : Option Json → Bool
  | none => true
  | some value => decide (value = .null)

def isInt : Option Json → Bool
  | some (.int _) => true
  | _ => false

def isFloat : Option Json → Bool
  | some (.float _) => true
  | _ => false

-- Whole numbers that no 64-bit column holds stay Python integers.
def isWide (cells : List (Option Json)) : Bool :=
  let numbers := cells.filterMap (fun cell => match cell with
    | some (.int number) => some number
    | _ => none)
  numbers.any (fun number => decide (number < -2 ^ 63 ∨ 2 ^ 64 ≤ number)) ||
    (numbers.any (fun number => decide (number < 0)) && numbers.any (fun number => decide (2 ^ 63 ≤ number)))

-- A column of numbers turns into floats when a cell is missing or is a float.
def floated (response : List ProviderEvent) (column : Text) : Bool :=
  let cells := response.map (fun event => event.cell column)
  cells.all (fun cell => isMissing cell || isInt cell || isFloat cell) &&
    cells.any (fun cell => isMissing cell || isFloat cell) && !isWide cells

def notANumber : Json := .float "NaN".toList

section reading
variable [Reading]

def tableCell (floats : Bool) : Option Json → Json
  | none => notANumber
  | some (.int number) => if floats then .float (Reading.ofInt number) else .int number
  | some value => value

-- A row of the renamed table as a dict.
def tableRecord (response : List ProviderEvent) (event : ProviderEvent) : List (Text × Json) :=
  dictOf ((columns response).map (fun column =>
    (snakeCase column,tableCell (floated response column) (event.cell column))))

variable [Platform]

def eventRow (response : List ProviderEvent) (provider symbol : Text) (event : ProviderEvent) : Option NormalizedAction :=
  if columns response = [] then none
  else some (normalizeRecord (tableRecord response event) (strip (upper provider)) (strip (upper symbol)))

-- Rows without a date come last.
def lastDate (date : Option Calendar.Date) : WithTop Calendar.Date := date

def rowKey (row : NormalizedAction) : WithTop Calendar.Date ×ₗ (WithTop Calendar.Date ×ₗ Text) :=
  toLex (lastDate row.record.effectiveDate,toLex (lastDate row.record.announcedAt,row.record.providerEventId.getD []))

-- Without date bounds.
def normalizeCorporateActions (response : List ProviderEvent) (provider symbol : Text) : List NormalizedAction :=
  Ranking.sortBy rowKey (response.filterMap (eventRow response provider symbol))

theorem normalized_iff (response : List ProviderEvent) (provider symbol : Text) (row : NormalizedAction) :
    row ∈ normalizeCorporateActions response provider symbol ↔
      ∃ event ∈ response, eventRow response provider symbol event = some row := by
  rw [normalizeCorporateActions,(Ranking.perm_sortBy _ _).mem_iff,List.mem_filterMap]

end reading

/- Dicts by their lookups. -/

theorem lookup_find (members : List (Text × Json)) (key : Text) :
    Json.lookup members key = (members.find? (fun member => member.1 = key)).map Prod.snd := by
  have same : (fun member : Text × Json => member.1 == key) = (fun member => decide (member.1 = key)) := by
    funext member
    exact beq_eq_decide _ _
  rw [Json.lookup,same]

theorem dictOf_append (pairs : List (Text × Json)) (pair : Text × Json) :
    dictOf (pairs ++ [pair]) = Rows.upsert Prod.fst (dictOf pairs) pair := by
  rw [dictOf,List.foldl_append]
  rfl

theorem dictOf_distinct (pairs : List (Text × Json)) : ((dictOf pairs).map Prod.fst).Nodup := by
  induction pairs using List.reverseRecOn with
  | nil => exact List.nodup_nil
  | append_singleton pairs pair ih =>
    rw [dictOf_append]
    exact Rows.upsert_distinct ih pair

theorem lookup_dictOf (pairs : List (Text × Json)) (key : Text) :
    Json.lookup (dictOf pairs) key = (pairs.reverse.find? (fun pair => pair.1 = key)).map Prod.snd := by
  induction pairs using List.reverseRecOn with
  | nil => rfl
  | append_singleton pairs pair ih =>
    rw [dictOf_append,lookup_find,Rows.find_upsert,List.reverse_append,List.reverse_singleton,List.singleton_append,
      List.find?_cons]
    by_cases same : key = pair.1
    · simp [same]
    · have other : ¬ pair.1 = key := fun equal => same equal.symm
      rw [if_neg same,← lookup_find,ih]
      simp [other]

theorem lookup_dictOf_distinct (distinct : (pairs.map Prod.fst).Nodup) (key : Text) :
    Json.lookup (dictOf pairs) key = Json.lookup pairs key := by
  rw [lookup_dictOf,← lookup_find]
  exact Json.lookup_perm distinct (List.reverse_perm pairs).symm key

theorem lookup_mapped (change : Json → Json) (members : List (Text × Json)) (key : Text) :
    Json.lookup (members.map (fun member => (member.1,change member.2))) key = (Json.lookup members key).map change := by
  rw [lookup_find,lookup_find,List.find?_map,Option.map_map,Option.map_map]
  rfl

/- A column name is not changed when the record is read. -/

def isNameChar (c : Char) : Prop := c.isAlphanum = true ∨ c = '_'

theorem joinWords_members (gap : Bool) (text : Text) : ∀ c ∈ joinWords gap text, isNameChar c := by
  induction text generalizing gap with
  | nil => simp [joinWords]
  | cons d text ih =>
    intro c inside
    rw [joinWords] at inside
    split at inside
    · rename_i letter
      rcases List.mem_cons.mp inside with rfl | later
      · exact .inl letter
      · exact ih _ c later
    · split at inside
      · exact ih _ c inside
      · rcases List.mem_cons.mp inside with rfl | later
        · exact .inr rfl
        · exact ih _ c later

theorem stripMarks_members (text : Text) : ∀ c ∈ stripMarks text, c ∈ text := by
  intro c inside
  rw [stripMarks,List.mem_reverse] at inside
  have outer := (List.dropWhile_sublist _).subset inside
  rw [List.mem_reverse] at outer
  exact (List.dropWhile_sublist _).subset outer

-- What a small letter, a digit or an underscore is.
def isSmall (c : Char) : Prop := c.isLower = true ∨ c.isDigit = true ∨ c = '_'

theorem lowerPoint_name (name : isNameChar c) : ∃ d, lowerPoint c = [d] ∧ isSmall d := by
  by_cases upper : c.isUpper = true
  · have range := upper_range upper
    refine ⟨Char.ofNat (c.toNat + 32),by rw [lowerPoint,if_pos upper],.inl ?_⟩
    have letters : ∀ code < 91, 65 ≤ code → (Char.ofNat (code + 32)).isLower = true := by decide
    exact letters c.toNat (by omega) range.1
  · have small : isSmall c := by
      rcases name with letter | rfl
      · rw [alphanum_cases] at letter
        rcases letter with (big | low) | digit
        · exact absurd big upper
        · exact .inl low
        · exact .inr (.inl digit)
      · exact .inr (.inr rfl)
    refine ⟨c,?_,small⟩
    have code : c.toNat < 123 := by
      rcases small with low | digit | rfl
      · have range := lower_range low; omega
      · have range := digit_range digit; omega
      · decide
    rw [lowerPoint,if_neg upper]
    split
    all_goals first | rfl | omega

theorem lowerPoint_small (small : isSmall c) : lowerPoint c = [c] := by
  have name : isNameChar c := by
    rcases small with low | digit | rfl
    · exact .inl (alphanum_cases.mpr (.inl (.inr low)))
    · exact .inl (by simp [Char.isAlphanum,digit])
    · exact .inr rfl
  have plain : ¬ c.isUpper = true := by
    intro upper
    have high := upper_range upper
    rcases small with low | digit | rfl
    · have range := lower_range low; omega
    · have range := digit_range digit; omega
    · revert upper; decide
  have code : c.toNat < 123 := by
    rcases small with low | digit | rfl
    · have range := lower_range low; omega
    · have range := digit_range digit; omega
    · decide
  rw [lowerPoint,if_neg plain]
  split
  all_goals first | rfl | omega

theorem small_clean (small : isSmall c) : isSpace c = false := by
  rcases small with low | digit | rfl
  · exact alphanum_clean (alphanum_cases.mpr (.inl (.inr low)))
  · exact alphanum_clean (by simp [Char.isAlphanum,digit])
  · decide

theorem snakeCase_small (value : Text) : ∀ c ∈ snakeCase value, isSmall c := by
  intro c inside
  obtain ⟨d,member,here⟩ := List.mem_flatMap.mp inside
  obtain ⟨e,shape,small⟩ := lowerPoint_name (joinWords_members _ _ d (stripMarks_members _ d member))
  rw [shape,List.mem_singleton] at here
  rw [here]
  exact small

theorem snakeCase_stable (value : Text) : lower (strip (snakeCase value)) = snakeCase value := by
  have small := snakeCase_small value
  rw [strip_clean (fun c inside => small_clean (small c inside))]
  generalize snakeCase value = name at small
  induction name with
  | nil => rfl
  | cons c name ih =>
    rw [lower,List.flatMap_cons,lowerPoint_small (small c (by simp))]
    exact congrArg _ (ih (fun d inside => small d (by simp [inside])))

end OpenStock.Providers.Events
