import OpenStock.Foundations.JsonRoundTrip

namespace OpenStock.Json
open Text

/- Strings with `ensure_ascii=False`: only what JSON cannot hold is escaped. -/

def escapePlain (c : Char) : Text :=
  match shortEscapes.lookup c with
  | some tag => ['\\',tag]
  | none => if c.toNat < 32 then '\\' :: 'u' :: hex4 c.toNat else [c]

def quotePlain (value : Text) : Text := '"' :: (value.flatMap escapePlain ++ ['"'])

theorem readChar_plain (c : Char) (rest : Text) : readChar (escapePlain c ++ rest) = some (c,rest) := by
  cases found : shortEscapes.lookup c with
  | some tag =>
    obtain ⟨notUnicode,read⟩ := shortEscapes_read found
    simp only [escapePlain,found,List.cons_append,List.nil_append]
    rw [readChar]
    · simp [read]
    · exact notUnicode
  | none =>
    by_cases control : c.toNat < 32
    · simp only [escapePlain,found,if_pos control,List.cons_append]
      rw [readChar]
      exact readUnicode_unit (by omega)
    · simp only [escapePlain,found,if_neg control,List.cons_append,List.nil_append]
      rw [readChar]
      · exact if_neg control
      · exact (shortEscapes_printable found).2

theorem escapePlain_head (c : Char) : ∃ head tail, escapePlain c = head :: tail ∧ head ≠ '"' := by
  unfold escapePlain
  split
  · exact ⟨_,_,rfl,by decide⟩
  · rename_i absent
    split
    · exact ⟨_,_,rfl,by decide⟩
    · exact ⟨_,_,rfl,(shortEscapes_printable absent).1⟩

-- A body ends at the first quote that no escape hides.
theorem body_unique (escape : Char → Text) (read : ∀ c rest, readChar (escape c ++ rest) = some (c,rest))
    (head : ∀ c, ∃ first tail, escape c = first :: tail ∧ first ≠ '"') (left right : Text)
    (same : left.flatMap escape ++ '"' :: rest = right.flatMap escape ++ '"' :: later) : left = right ∧ rest = later := by
  induction left generalizing right with
  | nil =>
    cases right with
    | nil => exact ⟨rfl,(List.cons.inj same).2⟩
    | cons c right =>
      obtain ⟨first,tail,shape,notQuote⟩ := head c
      simp only [List.flatMap_nil,List.nil_append,List.flatMap_cons,shape,List.cons_append] at same
      exact absurd (List.cons.inj same).1.symm notQuote
  | cons c left ih =>
    cases right with
    | nil =>
      obtain ⟨first,tail,shape,notQuote⟩ := head c
      simp only [List.flatMap_nil,List.nil_append,List.flatMap_cons,shape,List.cons_append] at same
      exact absurd (List.cons.inj same).1 notQuote
    | cons d right =>
      simp only [List.flatMap_cons,List.append_assoc] at same
      have first := read c (left.flatMap escape ++ '"' :: rest)
      rw [same,read] at first
      obtain ⟨rfl,tails⟩ := Prod.mk.inj (Option.some.inj first)
      obtain ⟨rfl,ends⟩ := ih right tails.symm
      exact ⟨rfl,ends⟩

theorem quotePlain_unique (same : quotePlain left ++ rest = quotePlain right ++ later) : left = right ∧ rest = later := by
  apply body_unique escapePlain readChar_plain escapePlain_head left right
  simpa [quotePlain] using same

theorem renderString_unique (same : renderString left ++ rest = renderString right ++ later) : left = right ∧ rest = later := by
  apply body_unique escapeChar readChar_escape escapeChar_head left right
  simpa [renderString] using same

/- `json.dumps` with its options: blanks, separators, the quoting of strings. -/

structure Layout where
  opening : Nat → Text
  between : Nat → Text
  closing : Nat → Text
  colon : Text
  quote : Text → Text
  blank : ∀ depth, ∀ c ∈ opening depth ++ closing depth, isBlank c = true
  quoted : ∀ value, ∃ body, quote value = '"' :: body
  unique : ∀ {left right rest later}, quote left ++ rest = quote right ++ later → left = right ∧ rest = later

def spaced : Layout where
  opening _ := []
  between _ := [' ']
  closing _ := []
  colon := [':',' ']
  quote := renderString
  blank := by simp
  quoted _ := ⟨_,rfl⟩
  unique := renderString_unique

def indented (width : Nat) : Layout where
  opening depth := '\n' :: List.replicate (width * depth) ' '
  between depth := '\n' :: List.replicate (width * depth) ' '
  closing depth := '\n' :: List.replicate (width * depth) ' '
  colon := [':',' ']
  quote := renderString
  blank := by
    intro depth c inside
    simp only [List.mem_append,List.mem_cons,List.mem_replicate,or_self] at inside
    rcases inside with rfl | ⟨_,rfl⟩ <;> rfl
  quoted _ := ⟨_,rfl⟩
  unique := renderString_unique

-- `ensure_ascii=False`, with the default separators and with `(",",":")`.
def spacedPlain : Layout := {spaced with quote:=quotePlain, quoted:=fun _ => ⟨_,rfl⟩, unique:=quotePlain_unique}

def compactPlain : Layout := {spacedPlain with between:=fun _ => [], colon:=[':']}

section layout
variable (layout : Layout)

mutual
def write : Nat → Json → Text
  | _,.str value => layout.quote value
  | depth,.arr (item :: items) =>
      '[' :: (layout.opening (depth + 1) ++ (write (depth + 1) item ++ writeItems depth items))
  | depth,.obj ((key,value) :: members) =>
      '{' :: (layout.opening (depth + 1) ++
        (layout.quote key ++ (layout.colon ++ (write (depth + 1) value ++ writeMembers depth members))))
  | _,value => render value
def writeItems : Nat → List Json → Text
  | depth,[] => layout.closing depth ++ [']']
  | depth,item :: items => ',' :: (layout.between (depth + 1) ++ (write (depth + 1) item ++ writeItems depth items))
def writeMembers : Nat → List (Text × Json) → Text
  | depth,[] => layout.closing depth ++ ['}']
  | depth,(key,value) :: members =>
      ',' :: (layout.between (depth + 1) ++
        (layout.quote key ++ (layout.colon ++ (write (depth + 1) value ++ writeMembers depth members))))
end

end layout

/- Scalars are words: what ends one is no part of a word. -/

def isToken (c : Char) : Bool := c.isAlphanum || c == '-' || c == '+' || c == '.'

-- A number that `float.__repr__` writes, or one of the non-finite constants.
def isLexeme (lexeme : Text) : Bool :=
  lexeme.all isToken && lexeme.any (fun c => c == '.' || c == 'e' || c == 'N' || c == 'I') &&
    (lexeme.head?.map (fun c => c.isDigit || c == '-' || c == 'N' || c == 'I')).getD false

mutual
def Printable : Json → Prop
  | .float lexeme => isLexeme lexeme = true
  | .arr items => PrintableItems items
  | .obj members => PrintableMembers members
  | _ => True
def PrintableItems : List Json → Prop
  | [] => True
  | item :: items => Printable item ∧ PrintableItems items
def PrintableMembers : List (Text × Json) → Prop
  | [] => True
  | (_,value) :: members => Printable value ∧ PrintableMembers members
end

theorem printableItems_iff : PrintableItems items ↔ ∀ item ∈ items, Printable item := by
  induction items with
  | nil => simp [PrintableItems]
  | cons item items ih => simp [PrintableItems,ih]

theorem printableMembers_iff : PrintableMembers members ↔ ∀ member ∈ members, Printable member.2 := by
  induction members with
  | nil => simp [PrintableMembers]
  | cons member members ih => simp [PrintableMembers,ih]

-- The character that a string or a container starts with.
def opener : Json → Option Char
  | .str _ => some '"'
  | .arr _ => some '['
  | .obj _ => some '{'
  | _ => none

def IsWord (text : Text) : Prop := text ≠ [] ∧ ∀ c ∈ text, isToken c = true

theorem digit_token (digit : c.isDigit = true) : isToken c = true := by simp [isToken,Char.isAlphanum,digit]

theorem renderInt_members (value : Int) : ∀ c ∈ renderInt value, c = '-' ∨ c.isDigit = true := by
  have digits : ∀ c ∈ Nat.toDigits 10 value.natAbs, c.isDigit = true :=
    fun c member => Nat.isDigit_of_mem_toDigits (by decide) (by decide) member
  intro c inside
  unfold renderInt at inside
  split at inside
  · rcases List.mem_cons.mp inside with minus | digit
    · exact .inl minus
    · exact .inr (digits c digit)
  · exact .inr (digits c inside)

theorem scalar_word (value : Json) (plain : opener value = none) (printable : Printable value) : IsWord (render value) := by
  cases value with
  | null => exact ⟨by decide,List.all_eq_true.mp (by decide)⟩
  | bool value => cases value <;> exact ⟨by decide,List.all_eq_true.mp (by decide)⟩
  | int value =>
    obtain ⟨c,tail,shape,_⟩ := renderInt_head value
    refine ⟨by rw [render,shape]; exact List.cons_ne_nil _ _,?_⟩
    intro d inside
    rcases renderInt_members value d inside with rfl | digit
    · rfl
    · exact digit_token digit
  | float lexeme =>
    simp only [Printable,isLexeme,Bool.and_eq_true,List.all_eq_true] at printable
    refine ⟨?_,printable.1.1⟩
    intro empty
    rw [render] at empty
    rw [empty] at printable
    exact absurd printable.2 (by decide)
  | str value => cases plain
  | arr items => cases plain
  | obj members => cases plain

-- Reads a scalar back from its word.
def readScalar (word : Text) : Json :=
  match constants.lookup word with
  | some value => value
  | none => if isLexeme word then .float word else ((parseScalar word).map Prod.fst).getD .null

theorem constants_lexeme (entry) (known : entry ∈ constants) (lexeme : isLexeme entry.1 = true) : entry.2 = .float entry.1 := by
  have each : ∀ entry ∈ constants, isLexeme entry.1 = true → entry.2 = .float entry.1 := by decide
  exact each entry known lexeme

theorem constants_letters : ∀ entry ∈ constants, ¬ ∀ c ∈ entry.1, c = '-' ∨ c.isDigit = true := by
  intro entry known digits
  have lettered : ∀ entry ∈ constants, entry.1.all (fun c => decide (c = '-') || c.isDigit) = false := by decide
  have all : entry.1.all (fun c => decide (c = '-') || c.isDigit) = true := by
    apply List.all_eq_true.mpr
    intro c inside
    simpa using digits c inside
  rw [lettered entry known] at all
  cases all

theorem lookup_member (found : constants.lookup word = some value) : (word,value) ∈ constants := by
  rw [List.lookup_eq_some_iff] at found
  obtain ⟨before,after,shape,_⟩ := found
  simp [shape]

theorem renderInt_plain (value : Int) : isLexeme (renderInt value) = false := by
  have marks : (renderInt value).any (fun c => c == '.' || c == 'e' || c == 'N' || c == 'I') = false := by
    rw [List.any_eq_false]
    intro c inside marked
    rcases renderInt_members value c inside with rfl | digit
    · exact absurd marked (by decide)
    · simp only [Bool.or_eq_true,beq_iff_eq] at marked
      rcases marked with ((rfl | rfl) | rfl) | rfl <;> exact absurd digit (by decide)
  simp [isLexeme,marks]

theorem readScalar_render (value : Json) (plain : opener value = none) (printable : Printable value) :
    readScalar (render value) = value := by
  cases value with
  | null => rfl
  | bool value => cases value <;> rfl
  | int value =>
    have parsed : parseScalar (renderInt value ++ []) = some (.int value,[]) := parseScalar_int value stops_nil
    rw [List.append_nil] at parsed
    rw [readScalar,render]
    cases found : constants.lookup (renderInt value) with
    | some other => exact absurd (renderInt_members value) (constants_letters _ (lookup_member found))
    | none => simp [renderInt_plain,parsed]
  | float lexeme =>
    simp only [Printable] at printable
    rw [readScalar,render]
    cases found : constants.lookup lexeme with
    | some other => exact constants_lexeme _ (lookup_member found) printable
    | none => simp [printable]
  | str value => cases plain
  | arr items => cases plain
  | obj members => cases plain

/- Two values that are written alike are the same value. -/

-- What follows a value is not part of a word.
def Ends (rest : Text) : Prop := ∀ c tail, rest = c :: tail → isToken c = false

theorem ends_nil : Ends [] := by
  intro c tail impossible
  cases impossible

theorem ends_cons (plain : isToken c = false) : Ends (c :: rest) := by
  intro d tail same
  cases same
  exact plain

theorem ends_blank (blank : ∀ c ∈ gap, isBlank c = true) (ends : Ends rest) : Ends (gap ++ rest) := by
  cases gap with
  | nil => exact ends
  | cons c gap =>
    apply ends_cons
    have here := blank c (by simp)
    simp only [isBlank,Bool.or_eq_true,beq_iff_eq] at here
    rcases here with ((rfl | rfl) | rfl) | rfl <;> decide

theorem word_ends (word : IsWord text) (ends : Ends rest) :
    (text ++ rest).takeWhile isToken = text ∧ (text ++ rest).dropWhile isToken = rest := by
  have tail : rest.takeWhile isToken = [] ∧ rest.dropWhile isToken = rest := by
    cases rest with
    | nil => simp
    | cons c rest => simp [ends c rest rfl]
  rw [List.takeWhile_append_of_pos word.2,List.dropWhile_append_of_pos word.2]
  simp [tail]

section layout
variable (layout : Layout)

theorem write_plain (plain : opener value = none) : write layout depth value = render value := by
  cases value with
  | null => rfl
  | bool value => rfl
  | int value => rfl
  | float lexeme => rfl
  | str value => cases plain
  | arr items => cases plain
  | obj members => cases plain

theorem write_opener (opens : opener value = some c) : ∃ tail, write layout depth value = c :: tail := by
  cases value with
  | str value => cases opens; exact layout.quoted value
  | arr items => cases opens; cases items <;> exact ⟨_,rfl⟩
  | obj members => cases opens; cases members <;> exact ⟨_,rfl⟩
  | null => cases opens
  | bool value => cases opens
  | int value => cases opens
  | float lexeme => cases opens

theorem opener_apart (opens : opener value = some c) : isToken c = false := by
  cases value <;> cases opens <;> decide

-- A value starts with its opener or with a character of a word.
theorem write_head (value : Json) (printable : Printable value) : ∃ c tail, write layout depth value = c :: tail ∧
      (opener value = some c ∨ opener value = none ∧ isToken c = true) := by
  cases opens : opener value with
  | some c =>
    obtain ⟨tail,shape⟩ := write_opener layout opens
    exact ⟨c,tail,shape,.inl rfl⟩
  | none =>
    obtain ⟨nonempty,tokens⟩ := scalar_word value opens printable
    cases shape : render value with
    | nil => exact absurd shape nonempty
    | cons c tail => exact ⟨c,tail,by rw [write_plain layout opens,shape],.inr ⟨rfl,tokens c (by simp [shape])⟩⟩

variable (left right : Json)

theorem opener_same (leftPrintable : Printable left) (rightPrintable : Printable right)
    (same : write layout depth left ++ rest = write layout depth right ++ later) : opener left = opener right := by
  obtain ⟨c,tail,leftShape,leftOpens⟩ : ∃ c tail, write layout depth left = c :: tail ∧ _ := write_head layout left leftPrintable
  obtain ⟨d,end',rightShape,rightOpens⟩ : ∃ c tail, write layout depth right = c :: tail ∧ _ := write_head layout right rightPrintable
  rw [leftShape,rightShape] at same
  obtain ⟨rfl,_⟩ := List.cons.inj same
  rcases leftOpens with leftOpens | ⟨leftPlain,leftToken⟩
  · rcases rightOpens with rightOpens | ⟨_,rightToken⟩
    · rw [leftOpens,rightOpens]
    · rw [opener_apart leftOpens] at rightToken; cases rightToken
  · rcases rightOpens with rightOpens | ⟨rightPlain,_⟩
    · rw [opener_apart rightOpens] at leftToken; cases leftToken
    · rw [leftPlain,rightPlain]

theorem scalar_unique (plain : opener left = none) (leftPrintable : Printable left)
    (rightPrintable : Printable right) (leftEnds : Ends rest) (rightEnds : Ends later)
    (same : write layout depth left ++ rest = write layout depth right ++ later) : left = right ∧ rest = later := by
  have other : opener right = none := by
    rw [← opener_same layout left right leftPrintable rightPrintable same,plain]
  rw [write_plain layout plain,write_plain layout other] at same
  obtain ⟨leftTake,leftDrop⟩ := word_ends (scalar_word left plain leftPrintable) leftEnds
  obtain ⟨rightTake,rightDrop⟩ := word_ends (scalar_word right other rightPrintable) rightEnds
  rw [same,rightTake] at leftTake
  rw [same,rightDrop] at leftDrop
  refine ⟨?_,leftDrop.symm⟩
  rw [← readScalar_render left plain leftPrintable,← leftTake,readScalar_render right other rightPrintable]

theorem writeItems_ends (items : List Json) (rest : Text) : Ends (writeItems layout depth items ++ rest) := by
  cases items with
  | nil =>
    rw [writeItems,List.append_assoc]
    exact ends_blank (fun c inside => layout.blank depth c (by simp [inside])) (ends_cons (by decide))
  | cons item items => exact ends_cons (by decide)

theorem writeMembers_ends (members : List (Text × Json)) (rest : Text) : Ends (writeMembers layout depth members ++ rest) := by
  cases members with
  | nil =>
    rw [writeMembers,List.append_assoc]
    exact ends_blank (fun c inside => layout.blank depth c (by simp [inside])) (ends_cons (by decide))
  | cons member members => exact ends_cons (by decide)

-- Past the blanks stands the one character or the other.
omit layout in
theorem gap_apart (blank : ∀ c ∈ gap, isBlank c = true) (plain : isBlank c = false)
    (same : gap ++ d :: tail = c :: rest) : d = c := by
  cases gap with
  | nil => exact (List.cons.inj same).1
  | cons first gap =>
    have here := blank first (by simp)
    rw [(List.cons.inj same).1,plain] at here
    cases here

theorem item_apart (value : Json) (printable : Printable value) :
    layout.opening depth ++ (write layout level value ++ rest) ≠ ']' :: later := by
  intro same
  obtain ⟨c,tail,shape,opens⟩ : ∃ c tail, write layout level value = c :: tail ∧ _ := write_head layout value printable
  rw [shape,List.cons_append] at same
  have closed := gap_apart (fun c inside => layout.blank depth c (by simp [inside])) (by decide) same
  subst closed
  rcases opens with opens | ⟨_,token⟩
  · cases value <;> cases opens
  · cases token

theorem member_apart (key : Text) : layout.opening depth ++ (layout.quote key ++ rest) ≠ '}' :: later := by
  intro same
  obtain ⟨body,shape⟩ := layout.quoted key
  rw [shape,List.cons_append] at same
  have closed := gap_apart (fun c inside => layout.blank depth c (by simp [inside])) (by decide) same
  cases closed

theorem items_apart : layout.closing depth ++ [']'] ++ rest ≠ ',' :: later := by
  intro same
  rw [List.append_assoc] at same
  have closed := gap_apart (fun c inside => layout.blank depth c (by simp [inside])) (by decide) same
  cases closed

theorem members_apart : layout.closing depth ++ ['}'] ++ rest ≠ ',' :: later := by
  intro same
  rw [List.append_assoc] at same
  have closed := gap_apart (fun c inside => layout.blank depth c (by simp [inside])) (by decide) same
  cases closed

theorem write_items (item : Json) (items : List Json) (rest : Text) : write layout depth (.arr (item :: items)) ++ rest =
      '[' :: (layout.opening (depth + 1) ++ (write layout (depth + 1) item ++ (writeItems layout depth items ++ rest))) := by
  simp [write]

theorem write_members (key : Text) (value : Json) (members : List (Text × Json)) (rest : Text) :
    write layout depth (.obj ((key,value) :: members)) ++ rest = '{' :: (layout.opening (depth + 1) ++ (layout.quote key ++
        (layout.colon ++ (write layout (depth + 1) value ++ (writeMembers layout depth members ++ rest))))) := by
  simp [write]

theorem write_moreItems (item : Json) (items : List Json) (rest : Text) : writeItems layout depth (item :: items) ++ rest =
      ',' :: (layout.between (depth + 1) ++ (write layout (depth + 1) item ++ (writeItems layout depth items ++ rest))) := by
  simp [writeItems]

theorem write_moreMembers (key : Text) (value : Json) (members : List (Text × Json)) (rest : Text) :
    writeMembers layout depth ((key,value) :: members) ++ rest = ',' :: (layout.between (depth + 1) ++ (layout.quote key ++
        (layout.colon ++ (write layout (depth + 1) value ++ (writeMembers layout depth members ++ rest))))) := by
  simp [writeMembers]

mutual
theorem write_unique : ∀ (left right : Json) (depth : Nat) (rest later : Text), Printable left → Printable right →
    Ends rest → Ends later → write layout depth left ++ rest = write layout depth right ++ later → left = right ∧ rest = later
  | .null,right,_,_,_,leftPrintable,rightPrintable,leftEnds,rightEnds,same
  | .bool _,right,_,_,_,leftPrintable,rightPrintable,leftEnds,rightEnds,same
  | .int _,right,_,_,_,leftPrintable,rightPrintable,leftEnds,rightEnds,same
  | .float _,right,_,_,_,leftPrintable,rightPrintable,leftEnds,rightEnds,same =>
    scalar_unique layout _ right rfl leftPrintable rightPrintable leftEnds rightEnds same
  | .str value,right,_,rest,later,leftPrintable,rightPrintable,_,_,same => by
    have opens := opener_same layout _ right leftPrintable rightPrintable same
    cases right with
    | str other =>
      obtain ⟨rfl,tails⟩ := layout.unique same
      exact ⟨rfl,tails⟩
    | _ => cases opens
  | .arr items,right,depth,rest,later,leftPrintable,rightPrintable,_,_,same => by
    have opens := opener_same layout _ right leftPrintable rightPrintable same
    cases right with
    | arr others =>
      cases items with
      | nil =>
        cases others with
        | nil => exact ⟨rfl,(List.cons.inj (List.cons.inj same).2).2⟩
        | cons other others =>
          rw [write_items] at same
          exact absurd (List.cons.inj same).2.symm (item_apart layout other rightPrintable.1)
      | cons item items =>
        rw [write_items] at same
        cases others with
        | nil => exact absurd (List.cons.inj same).2 (item_apart layout item leftPrintable.1)
        | cons other others =>
          rw [write_items] at same
          have inner := List.append_cancel_left (List.cons.inj same).2
          obtain ⟨rfl,more⟩ := write_unique item other (depth + 1) _ _ leftPrintable.1 rightPrintable.1
            (writeItems_ends layout items rest) (writeItems_ends layout others later) inner
          obtain ⟨rfl,tails⟩ := writeItems_unique items others depth rest later leftPrintable.2 rightPrintable.2 more
          exact ⟨rfl,tails⟩
    | _ => cases opens
  | .obj members,right,depth,rest,later,leftPrintable,rightPrintable,_,_,same => by
    have opens := opener_same layout _ right leftPrintable rightPrintable same
    cases right with
    | obj others =>
      cases members with
      | nil =>
        cases others with
        | nil => exact ⟨rfl,(List.cons.inj (List.cons.inj same).2).2⟩
        | cons other others =>
          rw [write_members] at same
          exact absurd (List.cons.inj same).2.symm (member_apart layout other.1)
      | cons member members =>
        rw [write_members] at same
        cases others with
        | nil => exact absurd (List.cons.inj same).2 (member_apart layout member.1)
        | cons other others =>
          rw [write_members] at same
          have inner := List.append_cancel_left (List.cons.inj same).2
          obtain ⟨keys,colon⟩ := layout.unique inner
          have values := List.append_cancel_left colon
          obtain ⟨equal,more⟩ := write_unique member.2 other.2 (depth + 1) _ _ leftPrintable.1 rightPrintable.1
            (writeMembers_ends layout members rest) (writeMembers_ends layout others later) values
          obtain ⟨rfl,tails⟩ := writeMembers_unique members others depth rest later leftPrintable.2 rightPrintable.2 more
          rw [Prod.ext keys equal]
          exact ⟨rfl,tails⟩
    | _ => cases opens
theorem writeItems_unique : ∀ (lefts rights : List Json) (depth : Nat) (rest later : Text), PrintableItems lefts →
    PrintableItems rights → writeItems layout depth lefts ++ rest = writeItems layout depth rights ++ later →
    lefts = rights ∧ rest = later
  | [],[],_,_,_,_,_,same => ⟨rfl,by simpa [writeItems] using same⟩
  | [],_ :: _,_,_,_,_,_,same => absurd same (items_apart layout)
  | _ :: _,[],_,_,_,_,_,same => absurd same.symm (items_apart layout)
  | left :: lefts,right :: rights,depth,rest,later,leftPrintable,rightPrintable,same => by
    rw [write_moreItems,write_moreItems] at same
    have inner := List.append_cancel_left (List.cons.inj same).2
    obtain ⟨rfl,more⟩ := write_unique left right (depth + 1) _ _ leftPrintable.1 rightPrintable.1
      (writeItems_ends layout lefts rest) (writeItems_ends layout rights later) inner
    obtain ⟨rfl,tails⟩ := writeItems_unique lefts rights depth rest later leftPrintable.2 rightPrintable.2 more
    exact ⟨rfl,tails⟩
theorem writeMembers_unique : ∀ (lefts rights : List (Text × Json)) (depth : Nat) (rest later : Text),
    PrintableMembers lefts → PrintableMembers rights →
    writeMembers layout depth lefts ++ rest = writeMembers layout depth rights ++ later → lefts = rights ∧ rest = later
  | [],[],_,_,_,_,_,same => ⟨rfl,by simpa [writeMembers] using same⟩
  | [],_ :: _,_,_,_,_,_,same => absurd same (members_apart layout)
  | _ :: _,[],_,_,_,_,_,same => absurd same.symm (members_apart layout)
  | (key,left) :: lefts,(other,right) :: rights,depth,rest,later,leftPrintable,rightPrintable,same => by
    rw [write_moreMembers,write_moreMembers] at same
    have inner := List.append_cancel_left (List.cons.inj same).2
    obtain ⟨rfl,colon⟩ := layout.unique inner
    have values := List.append_cancel_left colon
    obtain ⟨rfl,more⟩ := write_unique left right (depth + 1) _ _ leftPrintable.1 rightPrintable.1
      (writeMembers_ends layout lefts rest) (writeMembers_ends layout rights later) values
    obtain ⟨rfl,tails⟩ := writeMembers_unique lefts rights depth rest later leftPrintable.2 rightPrintable.2 more
    exact ⟨rfl,tails⟩
end

theorem write_injective (leftPrintable : Printable left) (rightPrintable : Printable right) :
    write layout depth left = write layout depth right ↔ left = right := by
  constructor
  · intro same
    have closed : write layout depth left ++ [] = write layout depth right ++ [] := by rw [same]
    exact (write_unique layout left right depth [] [] leftPrintable rightPrintable ends_nil ends_nil closed).1
  · intro same
    rw [same]

end layout

/- Sorted keys. -/

theorem sortItems_map (items : List Json) : sortItems items = items.map sortKeys := by
  induction items with
  | nil => rfl
  | cons item items ih => rw [sortItems,List.map_cons,ih]

mutual
theorem printable_sorted : ∀ value : Json, Printable value → Printable (sortKeys value)
  | .null,_ | .bool _,_ | .int _,_ | .str _,_ => trivial
  | .float _,printable => printable
  | .arr items,printable => printableItems_sorted items printable
  | .obj members,printable => by
    have inner := printableMembers_iff.mp (printableMembers_sorted members printable)
    rw [sortKeys,Printable,printableMembers_iff]
    intro member inside
    exact inner member ((List.mem_insertionSort keyBefore).mp inside)
theorem printableItems_sorted : ∀ items : List Json, PrintableItems items → PrintableItems (sortItems items)
  | [],_ => trivial
  | item :: items,printable => ⟨printable_sorted item printable.1,printableItems_sorted items printable.2⟩
theorem printableMembers_sorted : ∀ members : List (Text × Json), PrintableMembers members →
    PrintableMembers (sortMembers members)
  | [],_ => trivial
  | (_,value) :: members,printable => ⟨printable_sorted value printable.1,printableMembers_sorted members printable.2⟩
end

theorem write_sorted (layout : Layout) (left right : Json) (leftPrintable : Printable left) (rightPrintable : Printable right) :
    write layout depth (sortKeys left) = write layout depth (sortKeys right) ↔ sortKeys left = sortKeys right :=
  write_injective layout _ _ (printable_sorted left leftPrintable) (printable_sorted right rightPrintable)

variable {left right : List (Text × Json)}

theorem perm_sameKeys (keys : left.map Prod.fst = right.map Prod.fst)
    (distinct : (left.map Prod.fst).Nodup) (perm : left.Perm right) : left = right := by
  induction left generalizing right with
  | nil => exact (List.nil_perm.mp perm).symm
  | cons member left ih =>
    cases right with
    | nil => cases keys
    | cons other right =>
      rw [List.map_cons,List.map_cons] at keys
      rw [List.map_cons,List.nodup_cons] at distinct
      obtain ⟨here,later⟩ := List.cons.inj keys
      have first : member = other := by
        rcases List.mem_cons.mp (perm.subset List.mem_cons_self) with same | behind
        · exact same
        · have again : member.1 ∈ left.map Prod.fst := by
            rw [later]
            exact List.mem_map_of_mem behind
          exact absurd again distinct.1
      subst first
      rw [ih later distinct.2 (List.perm_cons member |>.mp perm)]

-- Dicts with the same keys in the same order stay the same dicts when sorted.
theorem sorted_iff (keys : left.map Prod.fst = right.map Prod.fst) (distinct : (left.map Prod.fst).Nodup) :
    sortKeys (.obj left) = sortKeys (.obj right) ↔ sortMembers left = sortMembers right := by
  have sortedKeys : ∀ members : List (Text × Json), (sortMembers members).map Prod.fst = members.map Prod.fst := by
    intro members
    simp [sortMembers_map]
  constructor
  · intro same
    rw [sortKeys,sortKeys] at same
    have sorted := Json.obj.inj same
    have perm := (List.perm_insertionSort keyBefore (sortMembers left)).symm
    rw [sorted] at perm
    apply perm_sameKeys
    · rw [sortedKeys,sortedKeys,keys]
    · rw [sortedKeys]
      exact distinct
    · exact perm.trans (List.perm_insertionSort keyBefore (sortMembers right))
  · intro same
    rw [sortKeys,sortKeys,same]

instance : Std.Total keyBefore := ⟨fun left right => le_total left.1 right.1⟩

instance : IsTrans (Text × Json) keyBefore := ⟨fun _ _ _ first second => le_trans first second⟩

-- Sorting by distinct keys forgets the order, and nothing else.
theorem insertionSort_perm (distinct : (left.map Prod.fst).Nodup) :
    left.insertionSort keyBefore = right.insertionSort keyBefore ↔ left.Perm right := by
  constructor
  · intro same
    have sorted := (List.perm_insertionSort keyBefore left).symm
    rw [same] at sorted
    exact sorted.trans (List.perm_insertionSort keyBefore right)
  · intro perm
    have sorted := (List.perm_insertionSort keyBefore left).trans (perm.trans (List.perm_insertionSort keyBefore right).symm)
    apply List.Perm.eq_of_pairwise _ (List.pairwise_insertionSort _ _) (List.pairwise_insertionSort _ _) sorted
    intro member other inside listed forth back
    have first : member ∈ left := (List.mem_insertionSort keyBefore).mp inside
    have second : other ∈ left := perm.mem_iff.mpr ((List.mem_insertionSort keyBefore).mp listed)
    exact List.inj_on_of_nodup_map distinct first second (le_antisymm forth back)

theorem sortKeys_perm (distinct : (left.map Prod.fst).Nodup) (perm : left.Perm right) :
    sortKeys (.obj left) = sortKeys (.obj right) := by
  have keys : ((sortMembers left).map Prod.fst).Nodup := by simpa [sortMembers_map,Function.comp_def] using distinct
  have members : (sortMembers left).Perm (sortMembers right) := by
    simpa [sortMembers_map] using perm.map (fun member : Text × Json => (member.1,sortKeys member.2))
  rw [sortKeys,sortKeys,(insertionSort_perm keys).mpr members]

-- Two lists of members with distinct keys are one list reordered when one holds the other and is no longer.
theorem members_perm (leftDistinct : (left.map Prod.fst).Nodup) :
    left.Perm right ↔ left.length = right.length ∧ ∀ member ∈ left, member ∈ right := by
  constructor
  · intro perm
    exact ⟨perm.length_eq,fun member inside => perm.mem_iff.mp inside⟩
  · intro ⟨long,inside⟩
    exact (List.subperm_of_subset (leftDistinct.of_map Prod.fst) inside).perm_of_length_le (by omega)

end OpenStock.Json
