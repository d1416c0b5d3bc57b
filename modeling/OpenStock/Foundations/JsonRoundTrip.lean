import OpenStock.Foundations.Json

namespace OpenStock.Json
open Text

/- Strings. -/

theorem hexValue_digitChar (small : n < 16) : hexValue (Nat.digitChar n) = some n := by
  interval_cases n <;> decide

theorem readHex4_hex4 (small : n < 65536) : readHex4 (hex4 n ++ rest) = some (n,rest) := by
  have digit : ∀ m, hexValue (Nat.digitChar (m % 16)) = some (m % 16) :=
    fun m => hexValue_digitChar (Nat.mod_lt _ (by decide))
  have whole : n / 4096 % 16 * 4096 + n / 256 % 16 * 256 + n / 16 % 16 * 16 + n % 16 = n := by omega
  simp [hex4,readHex4,digit,whole]

theorem toNat_ranges (c : Char) : c.toNat < 0xD800 ∨ (0xE000 ≤ c.toNat ∧ c.toNat < 0x110000) := by
  have valid := c.valid
  simp only [UInt32.isValidChar,Nat.isValidChar] at valid
  have same : c.val.toNat = c.toNat := rfl
  omega

theorem readUnicode_unit (small : c.toNat < 0x10000) : readUnicode (hex4 c.toNat ++ rest) = some (c,rest) := by
  have range := toNat_ranges c
  have plain : c.toNat < 0xD800 ∨ 0xE000 ≤ c.toNat := by omega
  simp only [readUnicode,readHex4_hex4 small,Option.bind_eq_bind,Option.bind_some,if_pos plain,
    Char.ofNat_toNat]

theorem readUnicode_surrogates (high low : Nat) (highRange : 0xD800 ≤ high ∧ high < 0xDC00)
    (lowRange : 0xDC00 ≤ low ∧ low < 0xE000) : readUnicode (hex4 high ++ '\\' :: 'u' :: (hex4 low ++ rest)) =
      some (Char.ofNat (0x10000 + (high - 0xD800) * 0x400 + (low - 0xDC00)),rest) := by
  have highSmall : high < 65536 := by omega
  have lowSmall : low < 65536 := by omega
  have notPlain : ¬ (high < 0xD800 ∨ 0xE000 ≤ high) := by omega
  simp only [readUnicode,readHex4_hex4 highSmall,readHex4_hex4 lowSmall,Option.bind_eq_bind,
    Option.bind_some,if_neg notPlain,if_pos highRange.2,if_pos lowRange]

theorem surrogates_whole (code : Nat) (large : ¬ code < 0x10000) :
    0x10000 + (0xD800 + (code - 0x10000) / 0x400 - 0xD800) * 0x400 +
      (0xDC00 + (code - 0x10000) % 0x400 - 0xDC00) = code := by omega

theorem readUnicode_pair (large : ¬ c.toNat < 0x10000) : readUnicode (hex4 (0xD800 + (c.toNat - 0x10000) / 0x400) ++
      '\\' :: 'u' :: (hex4 (0xDC00 + (c.toNat - 0x10000) % 0x400) ++ rest)) = some (c,rest) := by
  have range := toNat_ranges c
  rw [readUnicode_surrogates _ _ (by omega) (by omega),surrogates_whole _ large,Char.ofNat_toNat]

theorem shortEscapes_read (found : shortEscapes.lookup c = some tag) : tag ≠ 'u' ∧ shortEscape tag = some c := by
  simp only [shortEscapes,List.lookup_cons,List.lookup_nil] at found
  repeat' (split at found)
  all_goals simp_all
  all_goals subst_vars
  all_goals decide

theorem shortEscapes_printable (absent : shortEscapes.lookup c = none) : c ≠ '"' ∧ c ≠ '\\' := by
  constructor
  · rintro rfl
    exact absurd absent (by decide)
  · rintro rfl
    exact absurd absent (by decide)

theorem readChar_escape (c : Char) (rest : Text) : readChar (escapeChar c ++ rest) = some (c,rest) := by
  cases found : shortEscapes.lookup c with
  | some tag =>
    obtain ⟨notUnicode,read⟩ := shortEscapes_read found
    simp only [escapeChar,found,List.cons_append,List.nil_append]
    rw [readChar]
    · simp [read]
    · exact notUnicode
  | none =>
    by_cases printable : 32 ≤ c.toNat ∧ c.toNat ≤ 126
    · simp only [escapeChar,found,if_pos printable,List.cons_append,List.nil_append]
      rw [readChar]
      · exact if_neg (by omega)
      · exact (shortEscapes_printable found).2
    · by_cases small : c.toNat < 0x10000
      · simp only [escapeChar,found,if_neg printable,if_pos small,List.cons_append]
        rw [readChar]
        exact readUnicode_unit small
      · simp only [escapeChar,found,if_neg printable,if_neg small,List.cons_append,List.append_assoc]
        rw [readChar]
        exact readUnicode_pair small

theorem escapeChar_head (c : Char) : ∃ head tail, escapeChar c = head :: tail ∧ head ≠ '"' := by
  unfold escapeChar
  split
  · exact ⟨_,_,rfl,by decide⟩
  · rename_i absent
    split
    · exact ⟨_,_,rfl,(shortEscapes_printable absent).1⟩
    · split
      · exact ⟨_,_,rfl,by decide⟩
      · exact ⟨_,_,rfl,by decide⟩

theorem escape_length (value : Text) : value.length ≤ (value.flatMap escapeChar).length := by
  induction value with
  | nil => simp
  | cons c tail ih =>
    obtain ⟨head,rest,shape,_⟩ := escapeChar_head c
    simp only [List.flatMap_cons,List.length_cons,List.length_append,shape]
    omega

theorem parseString_escape (value rest : Text) (fuel : Nat) (enough : value.length < fuel) :
    parseString fuel (value.flatMap escapeChar ++ '"' :: rest) = some (value,rest) := by
  induction value generalizing fuel with
  | nil =>
    obtain ⟨fuel,rfl⟩ := Nat.exists_eq_add_of_lt enough
    simp [parseString]
  | cons c tail ih =>
    obtain ⟨fuel,rfl⟩ : ∃ less, fuel = less + 1 := ⟨fuel - 1,by omega⟩
    obtain ⟨head,body,shape,notQuote⟩ := escapeChar_head c
    have first := readChar_escape c (tail.flatMap escapeChar ++ '"' :: rest)
    have later := ih fuel (by simpa using enough)
    simp only [List.flatMap_cons,List.append_assoc,shape,List.cons_append] at first ⊢
    simp [parseString,notQuote,first,later]

theorem parseString_render (value rest : Text) : parseString ((value.flatMap escapeChar ++ '"' :: rest).length + 1)
      (value.flatMap escapeChar ++ '"' :: rest) = some (value,rest) := by
  apply parseString_escape
  have bound := escape_length value
  simp only [List.length_append]
  omega

/- Numbers. -/

-- The text after a number must not continue it.
def Stops (rest : Text) : Prop :=
  ∀ c tail, rest = c :: tail → c.isDigit = false ∧ c ≠ '.' ∧ c ≠ 'e' ∧ c ≠ 'E'

theorem stops_nil : Stops [] := by
  intro c tail impossible
  cases impossible

theorem stops_cons (plain : c.isDigit = false ∧ c ≠ '.' ∧ c ≠ 'e' ∧ c ≠ 'E') : Stops (c :: rest) := by
  intro d tail same
  cases same
  exact plain

theorem takeWhile_digits (digits : ∀ c ∈ text, c.isDigit = true) (stops : Stops rest) :
    (text ++ rest).takeWhile Char.isDigit = text ∧ (text ++ rest).dropWhile Char.isDigit = rest := by
  have tail : rest.takeWhile Char.isDigit = [] ∧ rest.dropWhile Char.isDigit = rest := by
    cases rest with
    | nil => simp
    | cons c rest => simp [(stops c rest rfl).1]
  rw [List.takeWhile_append_of_pos digits,List.dropWhile_append_of_pos digits]
  simp [tail]

variable (negative : Bool)

theorem finishNumber_int (digits : Text) (stops : Stops rest) : finishNumber negative digits rest =
      (.int (if negative then -(Nat.ofDigitChars 10 digits 0 : Int) else Nat.ofDigitChars 10 digits 0),rest) := by
  have fraction : readFraction rest = ([],rest) := by
    unfold readFraction
    split
    · rename_i c tail
      exact absurd rfl (stops '.' (c :: tail) rfl).2.1
    · rfl
  have exponent : readExponent rest = ([],rest) := by
    unfold readExponent
    split
    · rename_i mark sign c tail
      have plain := stops mark (sign :: c :: tail) rfl
      simp [plain.2.2.1,plain.2.2.2]
    · rename_i mark c
      have plain := stops mark [c] rfl
      simp [plain.2.2.1,plain.2.2.2]
    · rfl
  simp [finishNumber,fraction,exponent]

theorem toDigits_head (n : Nat) (positive : 0 < n) : ∃ c tail, Nat.toDigits 10 n = c :: tail ∧ c ≠ '0' := by
  induction n using Nat.strongRecOn with
  | ind n ih =>
    by_cases small : n < 10
    · refine ⟨Nat.digitChar n,[],Nat.toDigits_of_lt_base small,?_⟩
      interval_cases n <;> decide
    · have split : Nat.toDigits 10 n = Nat.toDigits 10 (n / 10) ++ [Nat.digitChar (n % 10)] :=
        Nat.toDigits_of_base_le (by decide) (by omega)
      obtain ⟨c,tail,shape,nonzero⟩ := ih (n / 10) (by omega) (by omega)
      exact ⟨c,tail ++ [Nat.digitChar (n % 10)],by rw [split,shape]; rfl,nonzero⟩

theorem parseDigits_toDigits (n : Nat) (stops : Stops rest) :
    parseDigits negative (Nat.toDigits 10 n ++ rest) = some (.int (if negative then -(n : Int) else n),rest) := by
  have digits : ∀ c ∈ Nat.toDigits 10 n, c.isDigit = true :=
    fun c member => Nat.isDigit_of_mem_toDigits (by decide) (by decide) member
  have value : Nat.ofDigitChars 10 (Nat.toDigits 10 n) 0 = n := Nat.ofDigitChars_ten_toDigits
  rcases Nat.eq_zero_or_pos n with rfl | positive
  · simp [parseDigits,Nat.toDigits_zero,finishNumber_int _ _ stops,Nat.ofDigitChars]
  · obtain ⟨c,tail,shape,nonzero⟩ := toDigits_head n positive
    rw [shape] at digits value ⊢
    have later : ∀ d ∈ tail, d.isDigit = true := fun d member => digits d (by simp [member])
    obtain ⟨taken,dropped⟩ := takeWhile_digits later stops
    simp [parseDigits,nonzero,digits c,taken,dropped,finishNumber_int _ _ stops,value]

/- Values. -/

section decoder
variable (hook : List (Text × Json) → Option (List (Text × Json)))

-- The values the decoder gives back as they are: no floats, and every dict one
-- that the pairs hook leaves alone.
mutual
def Readable : Json → Prop
  | .float _ => False
  | .arr items => ReadableItems items
  | .obj members => hook members = some members ∧ ReadableMembers members
  | _ => True
def ReadableItems : List Json → Prop
  | [] => True
  | item :: items => Readable item ∧ ReadableItems items
def ReadableMembers : List (Text × Json) → Prop
  | [] => True
  | (_,value) :: members => Readable value ∧ ReadableMembers members
end

end decoder

-- The first character of an encoded value decides the branch of the decoder.
def Opens (c : Char) : Prop := isBlank c = false ∧ c ≠ ']' ∧ c ≠ '}'

theorem digit_opens (digit : c.isDigit = true) : Opens c := by
  refine ⟨?_,?_,?_⟩
  · simp only [isBlank,Bool.or_eq_false_iff,beq_eq_false_iff_ne]
    refine ⟨⟨⟨?_,?_⟩,?_⟩,?_⟩ <;> rintro rfl <;> exact absurd digit (by decide)
  all_goals rintro rfl; exact absurd digit (by decide)

theorem renderInt_head (value : Int) : ∃ c tail, renderInt value = c :: tail ∧ (c = '-' ∨ c.isDigit = true) := by
  unfold renderInt
  split
  · exact ⟨_,_,rfl,.inl rfl⟩
  · cases shape : Nat.toDigits 10 value.natAbs with
    | nil => exact absurd shape Nat.toDigits_ne_nil
    | cons c tail =>
      have digit : c.isDigit = true :=
        Nat.isDigit_of_mem_toDigits (by decide) (by decide) (shape ▸ List.mem_cons_self)
      exact ⟨c,tail,rfl,.inr digit⟩

theorem render_head (value : Json) (readable : Readable hook value) : ∃ c tail, render value = c :: tail ∧ Opens c := by
  cases value with
  | null => exact ⟨_,_,rfl,by decide,by decide,by decide⟩
  | bool value => cases value <;> exact ⟨_,_,rfl,by decide,by decide,by decide⟩
  | int value =>
    obtain ⟨c,tail,shape,minus | digit⟩ := renderInt_head value
    · exact ⟨c,tail,shape,by subst minus; exact ⟨by decide,by decide,by decide⟩⟩
    · exact ⟨c,tail,shape,digit_opens digit⟩
  | float lexeme => simp [Readable] at readable
  | str value => exact ⟨_,_,rfl,by decide,by decide,by decide⟩
  | arr items => cases items <;> exact ⟨_,_,rfl,by decide,by decide,by decide⟩
  | obj members =>
    cases members with
    | nil | cons member members => exact ⟨_,_,rfl,by decide,by decide,by decide⟩

theorem skipSpace_opens (opens : Opens c) : skipSpace (c :: rest) = c :: rest := by
  simp [skipSpace,opens.1]

theorem renderItems_stops (items : List Json) (rest : Text) : Stops (renderItems items ++ rest) := by
  cases items <;> exact stops_cons (by decide)

theorem renderMembers_stops (members : List (Text × Json)) (rest : Text) : Stops (renderMembers members ++ rest) := by
  cases members with
  | nil | cons member members => exact stops_cons (by decide)

theorem literal_other (differs : c ≠ head) : literal (head :: word) (c :: rest) = none := by
  simp [literal,Ne.symm differs]

theorem parseConstant_digit (digit : c.isDigit = true) : parseConstant (c :: rest) = none := by
  have differs : ∀ d : Char, d.isDigit = false → c ≠ d := by
    rintro d plain rfl
    rw [digit] at plain
    cases plain
  simp only [parseConstant,constants,List.findSome?_cons,List.findSome?_nil,Option.map_none,
    literal_other (differs 'n' (by decide)),literal_other (differs 't' (by decide)),
    literal_other (differs 'f' (by decide)),literal_other (differs 'N' (by decide)),
    literal_other (differs 'I' (by decide)),literal_other (differs '-' (by decide))]

theorem parseConstant_minus (digit : c.isDigit = true) : parseConstant ('-' :: c :: rest) = none := by
  have differs : 'I' ≠ c := by
    rintro rfl
    exact absurd digit (by decide)
  simp [parseConstant,constants,literal,differs]

theorem parseNumber_digits (digit : c.isDigit = true) : parseNumber (c :: rest) = parseDigits false (c :: rest) := by
  rw [parseNumber]
  rintro tail same
  cases same
  exact absurd digit (by decide)

theorem parseScalar_int (value : Int) (stops : Stops rest) :
    parseScalar (renderInt value ++ rest) = some (.int value,rest) := by
  have digits : ∀ c ∈ Nat.toDigits 10 value.natAbs, c.isDigit = true :=
    fun c member => Nat.isDigit_of_mem_toDigits (by decide) (by decide) member
  have signed := fun negative => parseDigits_toDigits negative value.natAbs stops
  cases shape : Nat.toDigits 10 value.natAbs with
  | nil => exact absurd shape Nat.toDigits_ne_nil
  | cons c tail =>
    have digit : c.isDigit = true := digits c (shape ▸ List.mem_cons_self)
    by_cases negative : value < 0
    · have parsed := signed true
      have whole : -(value.natAbs : Int) = value := by omega
      rw [shape,if_pos rfl,whole] at parsed
      rw [renderInt,if_pos negative,shape,parseScalar]
      simp only [List.cons_append] at parsed ⊢
      rw [parseConstant_minus digit,parseNumber,parsed]
      rfl
    · have parsed := signed false
      have whole : (value.natAbs : Int) = value := by omega
      rw [shape,if_neg (by decide),whole] at parsed
      rw [renderInt,if_neg negative,shape,parseScalar]
      simp only [List.cons_append] at parsed ⊢
      rw [parseConstant_digit digit,parseNumber_digits digit,parsed]
      rfl

theorem renderString_append (value rest : Text) :
    renderString value ++ rest = '"' :: (value.flatMap escapeChar ++ '"' :: rest) := by
  simp [renderString]

theorem parseValue_scalar (fuel : Nat) (shape : text = c :: tail) (opens : c ≠ '"' ∧ c ≠ '[' ∧ c ≠ '{') :
    parseValue hook (fuel + 1) text = parseScalar text := by
  subst shape
  simp [parseValue,opens]

theorem parseValue_string (fuel : Nat) (value rest : Text) :
    parseValue hook (fuel + 1) (renderString value ++ rest) = some (.str value,rest) := by
  rw [renderString_append,parseValue,if_pos rfl,parseString_render]
  rfl

theorem parseValue_array (fuel : Nat) (opens : Opens c) : parseValue hook (fuel + 1) ('[' :: c :: tail) =
      (parseItems hook fuel (c :: tail)).map (fun (items,rest) => (.arr items,rest)) := by
  rw [parseValue,if_neg (by decide),if_pos rfl,skipSpace_opens opens]
  split
  · rename_i same
    cases same
    exact absurd rfl opens.2.1
  · rfl

theorem parseValue_object (fuel : Nat) (parsed : parseMembers hook fuel ('"' :: tail) = some (pairs,rest))
    (hooked : hook pairs = some members) : parseValue hook (fuel + 1) ('{' :: '"' :: tail) = some (.obj members,rest) := by
  have blank : skipSpace ('"' :: tail) = '"' :: tail := skipSpace_opens ⟨by decide,by decide,by decide⟩
  rw [parseValue,if_neg (by decide),if_neg (by decide),if_pos rfl,blank]
  simp [parsed,hooked]

theorem render_positive (value : Json) (readable : Readable hook value) : 0 < (render value).length := by
  obtain ⟨c,tail,shape,_⟩ := render_head value readable
  simp [shape]

theorem skipSpace_render (value : Json) (readable : Readable hook value) (rest : Text) :
    skipSpace (render value ++ rest) = render value ++ rest := by
  obtain ⟨c,tail,shape,opens⟩ := render_head value readable
  rw [shape,List.cons_append,skipSpace_opens opens]

theorem skipSpace_nonblank (plain : isBlank c = false) : skipSpace (c :: rest) = c :: rest := by
  simp [skipSpace,plain]

mutual
theorem parseValue_render (hook) : ∀ (value : Json) (fuel : Nat) (rest : Text), Readable hook value →
    (render value).length ≤ fuel → Stops rest → parseValue hook fuel (render value ++ rest) = some (value,rest)
  | value,0,_,readable,enough,_ => absurd (render_positive value readable) (by omega)
  | .null,_ + 1,_,_,_,_ => rfl
  | .bool true,_ + 1,_,_,_,_ => rfl
  | .bool false,_ + 1,_,_,_,_ => rfl
  | .int value,fuel + 1,rest,_,_,stops => by
    obtain ⟨c,tail,shape,opens⟩ := renderInt_head value
    have plain : c ≠ '"' ∧ c ≠ '[' ∧ c ≠ '{' := by
      rcases opens with rfl | digit
      · decide
      · refine ⟨?_,?_,?_⟩ <;> rintro rfl <;> exact absurd digit (by decide)
    rw [render,parseValue_scalar fuel (by rw [shape]; rfl) plain]
    exact parseScalar_int value stops
  | .float lexeme,_ + 1,_,readable,_,_ => by simp [Readable] at readable
  | .str value,fuel + 1,rest,_,_,_ => parseValue_string fuel value rest
  | .arr [],_ + 1,_,_,_,_ => rfl
  | .arr (item :: items),fuel + 1,rest,readable,enough,_ => by
    have parts : Readable hook item ∧ ReadableItems hook items := by
      simpa [Readable,ReadableItems] using readable
    have bound : (render item ++ renderItems items).length ≤ fuel := by simpa [render] using enough
    have parsed := parseItems_render hook item items fuel rest parts.1 parts.2 bound
    obtain ⟨c,tail,shape,opens⟩ := render_head item parts.1
    rw [shape,List.cons_append] at parsed
    rw [render,shape,List.cons_append,List.cons_append,List.cons_append,List.append_assoc,
      parseValue_array fuel opens,parsed]
    rfl
  | .obj [],fuel + 1,rest,readable,_,_ => by
    have hooked : hook [] = some [] := by simpa [Readable,ReadableMembers] using readable
    have blank : skipSpace ('}' :: rest) = '}' :: rest := skipSpace_nonblank (by decide)
    rw [render,List.cons_append,List.cons_append,List.nil_append,parseValue,if_neg (by decide),
      if_neg (by decide),if_pos rfl,blank]
    simp [hooked]
  | .obj ((key,value) :: members),fuel + 1,rest,readable,enough,_ => by
    have parts : hook ((key,value) :: members) = some ((key,value) :: members) ∧
        Readable hook value ∧ ReadableMembers hook members := by
      simpa [Readable,ReadableMembers] using readable
    have bound : (renderString key ++ ':' :: (render value ++ renderMembers members)).length ≤ fuel := by
      simpa [render] using enough
    have parsed := parseMembers_render hook key value members fuel rest parts.2.1 parts.2.2 bound
    rw [renderString_append] at parsed
    rw [render,List.cons_append,List.append_assoc,renderString_append,List.cons_append,List.append_assoc]
    exact parseValue_object fuel parsed parts.1
termination_by value => sizeOf value
theorem parseItems_render (hook) : ∀ (item : Json) (items : List Json) (fuel : Nat) (rest : Text),
    Readable hook item → ReadableItems hook items → (render item ++ renderItems items).length ≤ fuel →
    parseItems hook fuel (render item ++ (renderItems items ++ rest)) = some (item :: items,rest)
  | item,_,0,_,readable,_,enough => by
    have positive := render_positive item readable
    rw [List.length_append] at enough
    omega
  | item,[],fuel + 1,rest,readable,_,enough => by
    rw [List.length_append] at enough
    have closing : (renderItems []).length = 1 := rfl
    have parsed := parseValue_render hook item fuel (']' :: rest) readable (by omega) (stops_cons (by decide))
    have blank : skipSpace (']' :: rest) = ']' :: rest := skipSpace_nonblank (by decide)
    rw [parseItems,renderItems,List.cons_append,List.nil_append,parsed]
    simp [blank]
  | item,next :: items,fuel + 1,rest,readable,others,enough => by
    have positive := render_positive item readable
    rw [List.length_append] at enough
    have parts : Readable hook next ∧ ReadableItems hook items := by simpa [ReadableItems] using others
    have longer : (renderItems (next :: items)).length = (render next ++ renderItems items).length + 1 := rfl
    have parsed := parseValue_render hook item fuel (renderItems (next :: items) ++ rest) readable
      (by omega) (renderItems_stops _ _)
    have later := parseItems_render hook next items fuel rest parts.1 parts.2 (by omega)
    have blank : ∀ text, skipSpace (',' :: text) = ',' :: text := fun text => skipSpace_nonblank (by decide)
    rw [parseItems,parsed]
    simp [renderItems,blank,skipSpace_render next parts.1,later]
termination_by item items => sizeOf item + sizeOf items
theorem parseMembers_render (hook) : ∀ (key : Text) (value : Json) (members : List (Text × Json)) (fuel : Nat)
    (rest : Text), Readable hook value → ReadableMembers hook members →
    (renderString key ++ ':' :: (render value ++ renderMembers members)).length ≤ fuel →
    parseMembers hook fuel (renderString key ++ ':' :: (render value ++ (renderMembers members ++ rest))) =
      some ((key,value) :: members,rest)
  | _,value,_,0,_,readable,_,enough => by
    simp only [List.length_append,List.length_cons] at enough
    omega
  | key,value,[],fuel + 1,rest,readable,_,enough => by
    simp only [List.length_append,List.length_cons] at enough
    have colon : ∀ text, skipSpace (':' :: text) = ':' :: text := fun text => skipSpace_nonblank (by decide)
    have parsed := parseValue_render hook value fuel ('}' :: rest) readable (by omega) (stops_cons (by decide))
    have blank : skipSpace ('}' :: rest) = '}' :: rest := skipSpace_nonblank (by decide)
    rw [renderString_append,parseMembers,parseString_render]
    simp [renderMembers,colon,skipSpace_render value readable,parsed,blank]
  | key,value,(nextKey,next) :: members,fuel + 1,rest,readable,others,enough => by
    simp only [List.length_append,List.length_cons] at enough
    have colon : ∀ text, skipSpace (':' :: text) = ':' :: text := fun text => skipSpace_nonblank (by decide)
    have parts : Readable hook next ∧ ReadableMembers hook members := by
      simpa [ReadableMembers] using others
    have longer : (renderMembers ((nextKey,next) :: members)).length =
        (renderString nextKey ++ ':' :: (render next ++ renderMembers members)).length + 1 := rfl
    have parsed := parseValue_render hook value fuel (renderMembers ((nextKey,next) :: members) ++ rest)
      readable (by omega) (renderMembers_stops _ _)
    have later := parseMembers_render hook nextKey next members fuel rest parts.1 parts.2 (by omega)
    have blank : ∀ text, skipSpace (',' :: text) = ',' :: text := fun text => skipSpace_nonblank (by decide)
    have quoted : ∀ text, skipSpace (renderString nextKey ++ text) = renderString nextKey ++ text := by
      intro text
      rw [renderString_append]
      exact skipSpace_nonblank (by decide)
    rw [renderString_append,parseMembers,parseString_render]
    simp [colon,skipSpace_render value readable,parsed]
    simp [renderMembers,blank,quoted,later]
termination_by _ value members => sizeOf value + sizeOf members
end

theorem loads_render (value : Json) (readable : Readable hook value) : loads hook (render value) = some value := by
  have parsed := parseValue_render hook value ((render value).length + 1) [] readable (by omega) stops_nil
  have blank := skipSpace_render value readable []
  rw [List.append_nil] at parsed blank
  rw [loads,blank,parsed]
  rfl

theorem readableMembers_iff : ReadableMembers hook members ↔ ∀ entry ∈ members, Readable hook entry.2 := by
  induction members with
  | nil => simp [ReadableMembers]
  | cons entry members ih => simp [ReadableMembers,ih]

theorem readableItems_iff : ReadableItems hook items ↔ ∀ item ∈ items, Readable hook item := by
  induction items with
  | nil => simp [ReadableItems]
  | cons item items ih => simp [ReadableItems,ih]

/- Size: the encoder writes ASCII only, so bytes are characters. -/

variable {c : Char}

def Ascii (text : Text) : Prop := ∀ c ∈ text, c.toNat < 128

theorem ascii_append : Ascii (left ++ right) ↔ Ascii left ∧ Ascii right := by
  simp only [Ascii,List.mem_append]
  exact ⟨fun all => ⟨fun c inside => all c (.inl inside),fun c inside => all c (.inr inside)⟩,
    fun both c inside => inside.elim (both.1 c) (both.2 c)⟩

theorem ascii_cons : Ascii (c :: text) ↔ c.toNat < 128 ∧ Ascii text := by simp [Ascii]

theorem ascii_nil : Ascii [] := by simp [Ascii]

theorem ascii_all (plain : text.all (fun c => decide (c.toNat < 128)) = true) : Ascii text := by
  intro c inside
  simpa using List.all_eq_true.mp plain c inside

theorem ascii_utf8Size (ascii : c.toNat < 128) : c.utf8Size = 1 := by
  have small : c.val ≤ 0x7f := UInt32.le_iff_toNat_le.mpr (Nat.le_of_lt_succ ascii)
  simp [Char.utf8Size,small]

theorem ascii_encodedLength (ascii : Ascii text) : encodedLength text = text.length := by
  induction text with
  | nil => rfl
  | cons c text ih =>
    obtain ⟨first,rest⟩ := ascii_cons.mp ascii
    have later := ih rest
    simp only [encodedLength] at later ⊢
    simp only [List.map_cons,List.sum_cons,ascii_utf8Size first,later,List.length_cons]
    omega

theorem ascii_digitChar (small : n < 16) : (Nat.digitChar n).toNat < 128 := by
  interval_cases n <;> decide

theorem ascii_hex4 (n : Nat) : Ascii (hex4 n) := by
  have digit : ∀ m, (Nat.digitChar (m % 16)).toNat < 128 := fun m => ascii_digitChar (Nat.mod_lt _ (by decide))
  intro c inside
  simp only [hex4,List.mem_cons,List.not_mem_nil,or_false] at inside
  rcases inside with rfl | rfl | rfl | rfl <;> exact digit _

theorem ascii_escapeChar (c : Char) : Ascii (escapeChar c) := by
  unfold escapeChar
  split
  · rename_i tag found
    have known : (shortEscapes.all (fun entry => entry.2.toNat < 128)) = true := by decide
    obtain ⟨before,after,shape,_⟩ := List.lookup_eq_some_iff.mp found
    have listed : (c,tag) ∈ shortEscapes := by simp [shape]
    have small := of_decide_eq_true (List.all_eq_true.mp known _ listed)
    simp [ascii_cons,ascii_nil,small]
  · split
    · simp only [ascii_cons,ascii_nil,and_true]
      omega
    · split
      · simp [ascii_cons,ascii_hex4]
      · simp [ascii_cons,ascii_append,ascii_hex4]

theorem ascii_renderString (value : Text) : Ascii (renderString value) := by
  have body : Ascii (value.flatMap escapeChar) := by
    intro c inside
    obtain ⟨source,_,inside⟩ := List.mem_flatMap.mp inside
    exact ascii_escapeChar source c inside
  simp [renderString,ascii_cons,ascii_append,ascii_nil,body]

theorem ascii_digit (digit : c.isDigit = true) : c.toNat < 128 := by
  have range := digit_range digit
  omega

theorem ascii_renderInt (value : Int) : Ascii (renderInt value) := by
  have digits : Ascii (Nat.toDigits 10 value.natAbs) :=
    fun c inside => ascii_digit (Nat.isDigit_of_mem_toDigits (by decide) (by decide) inside)
  have minus : '-'.toNat < 128 := by decide
  unfold renderInt
  split
  · exact ascii_cons.mpr ⟨minus,digits⟩
  · exact digits

mutual
theorem render_ascii (hook) : ∀ value : Json, Readable hook value → Ascii (render value)
  | .null,_ | .bool true,_ | .bool false,_ => by simp only [render]; exact ascii_all (by decide)
  | .int value,_ => ascii_renderInt value
  | .float _,readable => by simp [Readable] at readable
  | .str value,_ => ascii_renderString value
  | .arr [],_ => by simp only [render]; exact ascii_all (by decide)
  | .arr (item :: items),readable => by
    have parts : Readable hook item ∧ ReadableItems hook items := by
      simpa [Readable,ReadableItems] using readable
    simp [render,ascii_cons,ascii_append,render_ascii hook item parts.1,renderItems_ascii hook items parts.2]
  | .obj [],_ => by simp only [render]; exact ascii_all (by decide)
  | .obj ((key,value) :: members),readable => by
    have parts : Readable hook value ∧ ReadableMembers hook members := by
      simpa [Readable,ReadableMembers] using readable.2
    simp [render,ascii_cons,ascii_append,ascii_renderString,render_ascii hook value parts.1,
      renderMembers_ascii hook members parts.2]
theorem renderItems_ascii (hook) : ∀ items : List Json, ReadableItems hook items → Ascii (renderItems items)
  | [],_ => by simp only [renderItems]; exact ascii_all (by decide)
  | item :: items,readable => by
    simp [renderItems,ascii_cons,ascii_append,render_ascii hook item readable.1,
      renderItems_ascii hook items readable.2]
theorem renderMembers_ascii (hook) : ∀ members : List (Text × Json), ReadableMembers hook members →
    Ascii (renderMembers members)
  | [],_ => by simp only [renderMembers]; exact ascii_all (by decide)
  | (key,value) :: members,readable => by
    simp [renderMembers,ascii_cons,ascii_append,ascii_renderString,render_ascii hook value readable.1,
      renderMembers_ascii hook members readable.2]
end

theorem renderMembers_length (keys : ∀ entry ∈ members, (renderString entry.1).length ≤ keyBound)
    (values : ∀ entry ∈ members, (render entry.2).length ≤ valueBound) :
    (renderMembers members).length ≤ 1 + members.length * (keyBound + valueBound + 2) := by
  induction members with
  | nil => simp [renderMembers]
  | cons entry members ih =>
    obtain ⟨key,value⟩ := entry
    have key := keys _ List.mem_cons_self
    have value := values _ List.mem_cons_self
    have later := ih (fun entry inside => keys entry (List.mem_cons_of_mem _ inside))
      (fun entry inside => values entry (List.mem_cons_of_mem _ inside))
    simp only [renderMembers,List.length_cons,List.length_append] at key value ⊢
    rw [Nat.succ_mul]
    omega

-- The opening brace stands where a separator would.
theorem render_object_length (keys : ∀ entry ∈ members, (renderString entry.1).length ≤ keyBound)
    (values : ∀ entry ∈ members, (render entry.2).length ≤ valueBound) :
    (render (.obj members)).length ≤ 2 + members.length * (keyBound + valueBound + 2) := by
  have bound := renderMembers_length keys values
  cases members with
  | nil => simp [render]
  | cons entry members =>
    obtain ⟨key,value⟩ := entry
    simp only [render,renderMembers,List.length_cons,List.length_append] at bound ⊢
    omega

theorem renderItems_length (values : ∀ item ∈ items, (render item).length ≤ valueBound) :
    (renderItems items).length ≤ 1 + items.length * (valueBound + 1) := by
  induction items with
  | nil => simp [renderItems]
  | cons item items ih =>
    have value := values _ List.mem_cons_self
    have later := ih (fun item inside => values item (List.mem_cons_of_mem _ inside))
    simp only [renderItems,List.length_cons,List.length_append] at value ⊢
    rw [Nat.succ_mul]
    omega

theorem render_array_length (values : ∀ item ∈ items, (render item).length ≤ valueBound) :
    (render (.arr items)).length ≤ 2 + items.length * (valueBound + 1) := by
  have bound := renderItems_length values
  cases items with
  | nil => simp [render]
  | cons item items =>
    simp only [render,renderItems,List.length_cons,List.length_append] at bound ⊢
    omega

/- Sorted keys: a dict read back answers every lookup as before. -/

theorem lookup_iff (distinct : (members.map Prod.fst).Nodup) : lookup members key = some value ↔ (key,value) ∈ members := by
  induction members with
  | nil => simp [lookup]
  | cons member members ih =>
    obtain ⟨fresh,rest⟩ := List.nodup_cons.mp distinct
    by_cases same : member.1 = key
    · subst same
      have others : (member.1,value) ∉ members := fun inside => fresh (List.mem_map.mpr ⟨_,inside,rfl⟩)
      simp [lookup,others,Prod.ext_iff,eq_comm]
    · have skipped : lookup (member :: members) key = lookup members key := by simp [lookup,same]
      rw [skipped,ih rest,List.mem_cons]
      exact ⟨.inr,fun found => found.resolve_left (fun equal => same (congrArg Prod.fst equal).symm)⟩

theorem lookup_perm (distinct : (left.map Prod.fst).Nodup) (perm : left.Perm right) (key : Text) :
    lookup right key = lookup left key := by
  have rightDistinct : (right.map Prod.fst).Nodup := (perm.map Prod.fst).nodup_iff.mp distinct
  ext value
  rw [lookup_iff rightDistinct,lookup_iff distinct,perm.mem_iff]

theorem sortMembers_map (members : List (Text × Json)) :
    sortMembers members = members.map (fun member => (member.1,sortKeys member.2)) := by
  induction members with
  | nil => rfl
  | cons member members ih => simp [sortMembers,ih]

theorem lookup_sorted (distinct : (members.map Prod.fst).Nodup) (key : Text) :
    lookup ((sortMembers members).insertionSort keyBefore) key = (lookup members key).map sortKeys := by
  have keys : (sortMembers members).map Prod.fst = members.map Prod.fst := by simp [sortMembers_map]
  have sorted := (List.perm_insertionSort keyBefore (sortMembers members)).symm
  rw [lookup_perm (by rw [keys]; exact distinct) sorted,sortMembers_map,lookup,lookup,List.find?_map]
  simp [Function.comp_def]

end OpenStock.Json
