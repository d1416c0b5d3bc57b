import OpenStock.Foundations.JsonLayout
import OpenStock.SymbolMemory.Cards

namespace OpenStock.SymbolMemory.Cards
open Text Replacement Substrings TextLines

/- Characters of the front matter. -/

-- Neither a blank nor a line boundary.
def Visible (text : Text) : Prop := ∀ c ∈ text, 33 ≤ c.toNat ∧ c.toNat ≤ 126

instance (text : Text) : Decidable (Visible text) := List.decidableBAll _ text

-- Letters, digits and the marks of times and hashes.
def Plain (text : Text) : Prop := ∀ c ∈ text, c.isAlphanum = true ∨ c ∈ ['-',':','.','+']

instance (text : Text) : Decidable (Plain text) := List.decidableBAll _ text

variable {text : Text}

theorem plain_visible (plain : Plain text) : Visible text := by
  intro c inside
  rcases plain c inside with letter | mark
  · have range := alphanum_range letter
    omega
  · have marks : ∀ d ∈ ['-',':','.','+'], 33 ≤ d.toNat ∧ d.toNat ≤ 126 := by simp
    exact marks c mark

theorem plain_without (plain : Plain text) (odd : ¬ Plain [c]) : c ∉ text := by
  intro inside
  apply odd
  intro d single
  rw [List.mem_singleton.mp single]
  exact plain c inside

theorem visible_clean (visible : Visible text) : ∀ c ∈ text, isSpace c = false := by
  intro c inside
  have range := visible c inside
  simp only [isSpace,Bool.or_eq_false_iff,Bool.and_eq_false_iff,decide_eq_false_iff_not,beq_eq_false_iff_ne]
  omega

theorem shown_unbroken (shown : ∀ c ∈ text, 32 ≤ c.toNat ∧ c.toNat ≤ 126) : Unbroken text := by
  intro c inside
  have range := shown c inside
  simp only [isLineBreak,Bool.or_eq_false_iff,Bool.and_eq_false_iff,decide_eq_false_iff_not,beq_eq_false_iff_ne]
  omega

theorem fieldLine_unbroken (key : Visible entry.1) (value : Visible entry.2) : Unbroken (fieldLine entry) := by
  apply shown_unbroken
  intro c inside
  simp only [fieldLine,List.mem_append] at inside
  rcases inside with early | middle | late
  · have range := key c early
    omega
  · have marks : ∀ d ∈ [':',' '], 32 ≤ d.toNat ∧ d.toNat ≤ 126 := by simp
    exact marks c middle
  · have range := value c late
    omega

theorem plain_append (first : Plain left) (second : Plain right) : Plain (left ++ right) := by
  intro c inside
  rcases List.mem_append.mp inside with early | late
  · exact first c early
  · exact second c late

/- Symbols. -/

theorem isUpper_letter (upper : isUpper c = true) : c.isUpper = true := by
  have bounds : 'A' ≤ c ∧ c ≤ 'Z' := by simpa [isUpper] using upper
  exact decide_eq_true ⟨Char.le_def.mp bounds.1,Char.le_def.mp bounds.2⟩

variable {value symbol : Text}

theorem symbol_members (named : normalizeSymbol value = some symbol) : ∀ c ∈ symbol, c.isUpper = true ∨ c.isDigit = true := by
  unfold normalizeSymbol at named
  dsimp only at named
  split at named
  · cases named
  · rename_i safe
    cases named
    simp only [Bool.or_eq_true,not_or,Bool.not_eq_true',Bool.not_eq_false] at safe
    intro c inside
    rcases identifier_members safe.1.2 c inside with letter | other
    · exact .inl (isUpper_letter letter)
    · rcases Bool.or_eq_true .. |>.mp other with letter | digit
      · exact .inl (isUpper_letter letter)
      · exact .inr digit

theorem symbol_plain (named : normalizeSymbol value = some symbol) : Plain symbol := by
  intro c inside
  apply Or.inl
  rcases symbol_members named c inside with letter | digit
  · exact alphanum_cases.mpr (.inl (.inl letter))
  · simp [Char.isAlphanum,digit]

theorem symbol_again (named : normalizeSymbol value = some symbol) : normalizeSymbol symbol = some symbol := by
  have plain := symbol_plain named
  have stripped : strip symbol = symbol := strip_clean (visible_clean (plain_visible plain))
  have fixed : upper symbol = symbol := upper_fixed (fun c inside => upperChar_fixed (symbol_members named c inside))
  have letters : ∀ c ∈ symbol, c.isAlphanum = true := by
    intro c inside
    rcases symbol_members named c inside with letter | digit
    · exact alphanum_cases.mpr (.inl (.inl letter))
    · simp [Char.isAlphanum,digit]
  have apart : symbol.any (fun c => c == '/' || c == '\\' || c == ':') = false := by
    rw [List.any_eq_false]
    intro c inside found
    have letter := letters c inside
    simp only [Bool.or_eq_true,beq_iff_eq] at found
    rcases found with (rfl | rfl) | rfl
    all_goals exact absurd letter (by decide)
  unfold normalizeSymbol at named ⊢
  dsimp only at named ⊢
  split at named
  · cases named
  · rename_i safe
    cases named
    simp only [Bool.or_eq_true,not_or] at safe
    rw [stripped,fixed,apart,if_neg]
    simp only [Bool.or_eq_true,not_or]
    exact ⟨safe.1,by simp⟩

/- Reading the lines of the front matter. -/

theorem cut_entry {key value : Text} (apart : ':' ∉ key) : cut [':'] (fieldLine (key,value)) = some (key,' ' :: value) := by
  have free : Free [':'] key := free_absent (List.mem_singleton_self ':') apart
  exact cut_first (by simp) free (.inl (by simp))

theorem strip_entry {value : Text} (clean : ∀ c ∈ value, isSpace c = false) : strip (' ' :: value) = value := by
  have blank : stripLeft (' ' :: value) = stripLeft value := by
    have space : isSpace ' ' = true := by decide
    simp [stripLeft,space]
  rw [strip,blank]
  exact strip_clean clean

theorem unquoted (bare : '"' ∉ text) : text.dropWhile (· == '"') = text := by
  cases text with
  | nil => rfl
  | cons c text =>
    have other : ¬ (c == '"') = true := by
      intro same
      rw [beq_iff_eq] at same
      exact bare (by simp [same])
    exact List.dropWhile_cons_of_neg other

theorem stripQuotes_bare {value : Text} (bare : '"' ∉ value) : stripQuotes value = value := by
  unfold stripQuotes
  rw [unquoted bare,unquoted (by simpa using bare),List.reverse_reverse]

theorem stripQuotes_quoted {value : Text} (bare : '"' ∉ value) : stripQuotes ('"' :: (value ++ ['"'])) = value := by
  unfold stripQuotes
  rw [List.dropWhile_cons_of_pos (by simp)]
  cases value with
  | nil => rfl
  | cons c value =>
    have other : ¬ (c == '"') = true := by
      intro same
      rw [beq_iff_eq] at same
      exact bare (by simp [same])
    have kept : (c :: (value ++ ['"'])).dropWhile (· == '"') = c :: (value ++ ['"']) := List.dropWhile_cons_of_neg other
    have turned : (c :: (value ++ ['"'])).reverse = '"' :: (c :: value).reverse := by simp
    rw [List.cons_append,kept,turned,List.dropWhile_cons_of_pos (by simp),unquoted (by simpa [and_comm] using bare),List.reverse_reverse]

def Written (entry : Text × Text) : Prop := entry.1 ≠ [] ∧ ':' ∉ entry.1 ∧ ∀ c ∈ entry.2, isSpace c = false

theorem parseLines_written {entries values : List (Text × Text)} (written : ∀ entry ∈ entries, Written entry)
    (apart : (values.map Prod.fst ++ entries.map Prod.fst).Nodup) :
    parseLines values (entries.map fieldLine) = .ok (values ++ entries.map (fun entry => (entry.1,stripQuotes entry.2))) := by
  induction entries generalizing values with
  | nil => simp [parseLines]
  | cons entry entries ih =>
    obtain ⟨key,value⟩ := entry
    obtain ⟨some',colon,clean⟩ := written (key,value) List.mem_cons_self
    have fresh : values.lookup key = none := by
      rw [List.lookup_eq_none_iff]
      intro other inside
      have distinct := (List.nodup_append.mp apart).2.2 other.1 (List.mem_map_of_mem inside) key (by simp)
      simpa using Ne.symm distinct
    have later := @ih (values ++ [(key,stripQuotes value)]) (fun other inside => written other (.tail _ inside))
      (by simpa [List.append_assoc] using apart)
    rw [List.map_cons,parseLines,cut_entry colon]
    dsimp only
    rw [if_neg (by simp [some',fresh]),strip_entry clean,later]
    simp

theorem hashField_shape : hashField = "document_hash".toList ++ (": ".toList ++ ['"']) := by decide

theorem hashField_present : hashField ≠ [] := by decide

/- The fields of a card. -/

section platform
variable [Platform]

structure Front.Sound (front : Front) : Prop where
  symbol : normalizeSymbol front.symbol = some front.symbol
  managedHash : Plain front.managedHash

-- What is read of the front matter.
def Front.values (front : Front) (documentHash : Text) : List (Text × Text) :=
  [("schema_version".toList,"1".toList),("document_id".toList,"symbol:".toList ++ front.symbol),
    ("entity_type".toList,"symbol".toList),("entity_id".toList,front.symbol),
    ("generation".toList,Json.renderInt front.generation),("updated_at".toList,Platform.isoformat front.stamp),
    ("managed_hash".toList,front.managedHash),("document_hash".toList,documentHash)]

omit [Platform] in
theorem generation_plain (value : Int) : Plain (Json.renderInt value) := by
  intro c inside
  rcases Json.renderInt_members value c inside with rfl | digit
  · simp
  · exact .inl (by simp [Char.isAlphanum,digit])

theorem stamp_plain (stamp : Platform.Stamp) : Plain (Platform.isoformat stamp) := Platform.stampPlain stamp

theorem hash_plain (content : Text) : Plain (hash content) := by
  apply plain_append (by decide)
  exact fun c inside => .inl (Platform.hexPlain content c inside)

def Front.lines (front : Front) (documentHash : Text) : List (Text × Text) :=
  front.entries ++ [("document_hash".toList,'"' :: (documentHash ++ ['"']))]

theorem lines_shape (front : Front) (documentHash : Text) :
    (front.lines documentHash).map fieldLine = front.entries.map fieldLine ++ [hashField ++ (documentHash ++ ['"'])] := by
  have last : hashField ++ (documentHash ++ ['"']) = fieldLine ("document_hash".toList,'"' :: (documentHash ++ ['"'])) := by
    rw [hashField_shape]
    simp only [fieldLine,List.append_assoc,List.cons_append,List.nil_append]
  rw [last,Front.lines,List.map_append]
  rfl

-- The lines of the front matter, without the last line end.
def frontText (front : Front) (documentHash : Text) : Text :=
  unlines (front.entries.map fieldLine) ++ (hashField ++ (documentHash ++ ['"']))

section sound
variable {front : Front} (sound : front.Sound) {documentHash : Text} (plain : Plain documentHash)
include sound

omit [Platform] sound in
theorem quoted_visible {text : Text} (plain : Plain text) : Visible ('"' :: (text ++ ['"'])) := by
  have visible := plain_visible plain
  intro c inside
  simp only [List.mem_cons,List.mem_append,List.not_mem_nil,or_false] at inside
  rcases inside with rfl | own | rfl
  · decide
  · exact visible c own
  · decide

include plain

theorem lines_visible : ∀ entry ∈ front.lines documentHash, Visible entry.1 ∧ Visible entry.2 := by
  have symbol := symbol_plain sound.symbol
  simp only [Front.lines,Front.entries,List.cons_append,List.nil_append,List.forall_mem_cons,List.not_mem_nil,IsEmpty.forall_iff,
    implies_true,and_true]
  refine ⟨⟨by decide,by decide⟩,⟨by decide,?_⟩,⟨by decide,by decide⟩,⟨by decide,plain_visible symbol⟩,⟨by decide,?_⟩,
    ⟨by decide,?_⟩,⟨by decide,quoted_visible sound.managedHash⟩,⟨by decide,quoted_visible plain⟩⟩
  · exact plain_visible (plain_append (by decide) symbol)
  · exact plain_visible (generation_plain _)
  · exact plain_visible (stamp_plain _)

theorem lines_values : (front.lines documentHash).map (fun entry => (entry.1,stripQuotes entry.2)) = front.values documentHash := by
  have bare : ∀ {text : Text}, Plain text → '"' ∉ text := fun plain => plain_without plain (by decide)
  have symbol := symbol_plain sound.symbol
  have document := stripQuotes_bare (bare (plain_append (show Plain "symbol:".toList by decide) symbol))
  simp only [Front.lines,Front.entries,Front.values,List.cons_append,List.nil_append,List.map_cons,List.map_nil,
    stripQuotes_quoted (bare plain),stripQuotes_quoted (bare sound.managedHash),stripQuotes_bare (bare symbol),
    stripQuotes_bare (bare (generation_plain _)),stripQuotes_bare (bare (stamp_plain _))]
  rw [document]
  rfl

theorem lines_written : ∀ entry ∈ front.lines documentHash, Written entry := by
  intro entry listed
  have visible := lines_visible sound plain entry listed
  have keys : ∀ key ∈ (front.lines documentHash).map Prod.fst, key ≠ [] ∧ ':' ∉ key := by
    simp [Front.lines,Front.entries]
  have key := keys entry.1 (List.mem_map_of_mem listed)
  exact ⟨key.1,key.2,visible_clean visible.2⟩

theorem front_parsed : parseFrontmatter (frontText front documentHash) = .ok (front.values documentHash) := by
  have unbroken : ∀ line ∈ (front.lines documentHash).map fieldLine, Unbroken line := by
    intro line listed
    obtain ⟨entry,inside,rfl⟩ := List.mem_map.mp listed
    have visible := lines_visible sound plain entry inside
    exact fieldLine_unbroken visible.1 visible.2
  have single : splitlines (hashField ++ (documentHash ++ ['"'])) = [hashField ++ (documentHash ++ ['"'])] :=
    split_last (unbroken _ (by simp [lines_shape])) [] (List.append_ne_nil_of_left_ne_nil hashField_present _)
  have parsed := @parseLines_written (front.lines documentHash) [] (lines_written sound plain) (by simp [Front.lines,Front.entries])
  rw [parseFrontmatter,frontText,splitlines_unlines (fun line listed => unbroken line (by simp only [lines_shape,List.mem_append]; exact .inl listed)),
    single,← lines_shape,parsed,lines_values sound plain,List.nil_append]

end sound

omit [Platform] in
theorem readDecimal_digits (value : Nat) : readDecimal (Nat.toDigits 10 value) = some value := by
  have digits : ∀ c ∈ Nat.toDigits 10 value, c.isDigit = true :=
    fun c inside => Nat.isDigit_of_mem_toDigits (by decide) (by decide) inside
  have apart : '_' ∉ Nat.toDigits 10 value := by
    intro inside
    exact absurd (digits '_' inside) (by decide)
  have some' : Nat.toDigits 10 value ≠ [] := Nat.toDigits_ne_nil
  have grouped : (Nat.toDigits 10 value).splitOn '_' = [Nat.toDigits 10 value] := List.splitOn_eq_singleton apart
  simp only [readDecimal,grouped,List.all_cons,List.all_nil,Bool.and_true,List.flatten_cons,List.flatten_nil,List.append_nil,
    Nat.ofDigitChars_ten_toDigits]
  rw [if_pos]
  simp only [Bool.and_eq_true,Bool.not_eq_true',List.isEmpty_eq_false_iff,List.all_eq_true]
  exact ⟨some',digits⟩

omit [Platform] in
theorem readInt_render (value : Int) : readInt (Json.renderInt value) = some value := by
  have clean := visible_clean (plain_visible (generation_plain value))
  have digits : ∀ c ∈ Nat.toDigits 10 value.natAbs, c.isDigit = true :=
    fun c inside => Nat.isDigit_of_mem_toDigits (by decide) (by decide) inside
  have read := readDecimal_digits value.natAbs
  unfold readInt
  rw [strip_clean clean]
  by_cases negative : value < 0
  · rw [Json.renderInt,if_pos negative]
    simp only [read,Option.map_some,Option.some.injEq,Int.ofNat_eq_natCast]
    omega
  · rw [Json.renderInt,if_neg negative]
    split
    · rename_i shape
      exact absurd (digits '-' (by simp [shape])) (by decide)
    · rename_i shape
      exact absurd (digits '+' (by simp [shape])) (by decide)
    · simp only [read,Option.map_some,Option.some.injEq,Int.ofNat_eq_natCast]
      omega

variable {front : Front}

theorem values_read (sound : front.Sound) (documentHash : Text) : readValues (front.values documentHash) =
    some ⟨front.symbol,1,front.generation,front.stamp,front.managedHash,documentHash⟩ := by
  have symbol : (front.values documentHash).lookup "entity_id".toList = some front.symbol := rfl
  have version : (front.values documentHash).lookup "schema_version".toList = some "1".toList := rfl
  have generation : (front.values documentHash).lookup "generation".toList = some (Json.renderInt front.generation) := rfl
  have stamp : (front.values documentHash).lookup "updated_at".toList = some (Platform.isoformat front.stamp) := rfl
  have managed : (front.values documentHash).lookup "managed_hash".toList = some front.managedHash := rfl
  have document : (front.values documentHash).lookup "document_hash".toList = some documentHash := rfl
  have one : readInt "1".toList = some 1 := by decide
  simp only [readValues,symbol,version,generation,stamp,managed,document,sound.symbol,one,readInt_render,Platform.stampRead,
    Option.bind_some,Option.bind_eq_bind,Option.pure_def]

/- The reserved markers. -/

variable {content : Text}

section regions
omit [Platform]

-- `<` begins a marker and stands nowhere else in it; nothing in it ends a line or a string.
def Framed (marker : Text) : Prop := marker.head? = some '<' ∧ '<' ∉ marker.tail ∧ '\n' ∉ marker ∧ '"' ∉ marker

instance (marker : Text) : Decidable (Framed marker) := inferInstanceAs (Decidable (_ ∧ _))

instance (marker text : Text) : Decidable (Free marker text) := inferInstanceAs (Decidable (¬ _))

theorem marker_framed : ∀ marker ∈ reservedRegionMarkers, Framed marker := by decide

variable {marker : Text}

theorem framed_present (framed : Framed marker) : marker ≠ [] := by
  intro empty
  rw [empty] at framed
  cases framed.1

theorem framed_inside (framed : Framed marker) : '<' ∈ marker := List.mem_of_head? framed.1

-- No marker reaches over the border of two pieces.
def Linked (left right : Text) : Prop := left.getLast? = some '\n' ∨ right.head? = some '\n' ∨ right.head? = some '<'

theorem free_flatten (framed : Framed marker) (linked : List.IsChain Linked pieces)
    (free : ∀ piece ∈ pieces, Free marker piece) : Free marker pieces.flatten := by
  induction pieces with
  | nil => exact free_nil (framed_present framed)
  | cons piece pieces ih =>
    rw [List.flatten_cons]
    have later := ih linked.tail (fun other inside => free other (.tail _ inside))
    apply free_append (free piece List.mem_cons_self) later
    cases pieces with
    | nil => exact .inl (by simp)
    | cons next pieces =>
      rcases (List.isChain_cons_cons.mp linked).1 with newline | newline | opening
      · apply Or.inr
        intro c last inside
        obtain rfl : '\n' = c := Option.some.inj (newline.symm.trans last)
        exact framed.2.2.1 (List.mem_of_mem_dropLast inside)
      · apply Or.inl
        intro c head inside
        obtain rfl : '\n' = c := by simpa [List.flatten_cons,List.head?_append,newline] using head
        exact framed.2.2.1 (List.mem_of_mem_tail inside)
      · apply Or.inl
        intro c head inside
        obtain rfl : '<' = c := by simpa [List.flatten_cons,List.head?_append,opening] using head
        exact framed.2.1 inside

theorem framed_border (framed : Framed marker) (left right : Text) : Border marker left (marker ++ right) := by
  apply Or.inl
  intro c head inside
  obtain rfl : '<' = c := by simpa [List.head?_append,framed.1] using head
  exact framed.2.1 inside

-- A region that is written between its markers is read back.
theorem extract_exact {start finish region : Text} {before behind : List Text} (framed : Framed start) (framed' : Framed finish)
    (linked : List.IsChain Linked (before ++ ([start,['\n'],region,finish] ++ behind)))
    (free : ∀ piece ∈ before ++ region :: behind, Free start piece ∧ Free finish piece)
    (apart : Free start finish) (apart' : Free finish start) :
    extractRegion (before ++ ([start,['\n'],region,finish] ++ behind)).flatten start finish = .ok region := by
  have newline : ∀ {marker : Text}, Framed marker → Free marker ['\n'] :=
    fun framed => free_absent (framed_inside framed) (by decide)
  have parts : before ++ ([start,['\n'],region,finish] ++ behind) = (before ++ [start,['\n'],region]) ++ (finish :: behind) := by simp
  have whole : (before ++ ([start,['\n'],region,finish] ++ behind)).flatten =
      before.flatten ++ (start ++ ([['\n'],region,finish] ++ behind).flatten) := by simp
  have whole' : (before ++ ([start,['\n'],region,finish] ++ behind)).flatten =
      (before ++ [start,['\n'],region]).flatten ++ (finish ++ behind.flatten) := by simp
  have freeBefore : Free start before.flatten := free_flatten framed (List.isChain_append.mp linked).1
    (fun piece inside => (free piece (by simp [inside])).1)
  have freeBehind : Free start ([['\n'],region,finish] ++ behind).flatten := by
    have tail : List.IsChain Linked ([['\n'],region,finish] ++ behind) := (List.isChain_append.mp linked).2.1.tail
    apply free_flatten framed tail
    intro piece inside
    simp only [List.cons_append,List.nil_append,List.mem_cons] at inside
    rcases inside with rfl | rfl | rfl | later
    · exact newline framed
    · exact (free _ (by simp)).1
    · exact apart
    · exact (free piece (by simp [later])).1
  have freeUpTo : Free finish (before ++ [start,['\n'],region]).flatten := by
    rw [parts] at linked
    apply free_flatten framed' (List.isChain_append.mp linked).1
    intro piece inside
    simp only [List.mem_append,List.mem_cons,List.not_mem_nil,or_false] at inside
    rcases inside with early | rfl | rfl | rfl
    · exact (free piece (by simp [early])).2
    · exact apart'
    · exact newline framed'
    · exact (free _ (by simp)).2
  have freeRest : Free finish behind.flatten := by
    rw [parts] at linked
    have tail : List.IsChain Linked behind := (List.isChain_append.mp linked).2.1.tail
    apply free_flatten framed' tail
    exact fun piece inside => (free piece (by simp [inside])).2
  have present := framed_present framed
  have present' := framed_present framed'
  have once := occurrences_once present freeBefore (framed_border framed _ _) freeBehind
  have once' := occurrences_once present' freeUpTo (framed_border framed' _ _) freeRest
  have here := cut_first present freeBefore (framed_border framed _ ([['\n'],region,finish] ++ behind).flatten)
  have there := cut_first present' freeUpTo (framed_border framed' _ behind.flatten)
  rw [← whole] at once here
  rw [← whole'] at once' there
  have ordered : ¬ (before ++ [start,['\n'],region]).flatten.length < before.flatten.length := by simp
  have open' : (before ++ ([start,['\n'],region,finish] ++ behind)).flatten.drop (before.flatten.length + start.length) =
      ([['\n'],region,finish] ++ behind).flatten := by
    rw [whole,← List.append_assoc]
    exact List.drop_left' (by simp)
  have taken : (before ++ ([start,['\n'],region,finish] ++ behind)).flatten.take (before ++ [start,['\n'],region]).flatten.length =
      (before ++ [start,['\n'],region]).flatten := by
    rw [whole']
    exact List.take_left' rfl
  have inner : (before ++ [start,['\n'],region]).flatten.drop (before.flatten.length + start.length + 1) = region := by
    have split : (before ++ [start,['\n'],region]).flatten = (before.flatten ++ (start ++ ['\n'])) ++ region := by simp
    rw [split]
    exact List.drop_left' (by simp [Nat.add_assoc])
  rw [extractRegion,once,once',if_neg (by simp),here,there]
  dsimp only
  rw [if_neg ordered,open',taken,inner]
  rfl

/- The regions of a card. -/

theorem body_pieces (symbol managed user : Text) : cardBody symbol managed user =
    [snapshotHeading symbol,managedStart,['\n'],managed,managedEnd,notesHeading,userStart,['\n'],user,userEnd,['\n']].flatten := by
  simp only [cardBody,List.flatten_cons,List.flatten_nil,List.append_nil,List.cons_append,
    List.nil_append]

theorem body_linked (symbol managed user : Text) : List.IsChain Linked
    [snapshotHeading symbol,managedStart,['\n'],managed,managedEnd,notesHeading,userStart,['\n'],user,userEnd,['\n']] := by
  simp only [List.isChain_cons_cons,List.isChain_singleton,and_true]
  exact ⟨.inr (.inr rfl),.inr (.inl rfl),.inl rfl,.inr (.inr rfl),.inr (.inl rfl),.inr (.inr rfl),.inr (.inl rfl),.inl rfl,
    .inr (.inr rfl),.inr (.inl rfl)⟩

def Accepted (content : Text) : Prop := ∀ marker ∈ reservedRegionMarkers, Free marker content

theorem validate_ok : validateSymbolCardContent content = .ok () ↔ Accepted content := by
  unfold validateSymbolCardContent Accepted Free
  split
  · rename_i found
    obtain ⟨marker,listed,occurs⟩ := found
    constructor
    · intro same
      cases same
    · intro free
      exact absurd occurs (free marker listed)
  · rename_i missing
    exact ⟨fun _ marker listed occurs => missing ⟨marker,listed,occurs⟩,fun _ => rfl⟩

section accepted
variable {symbol managed user : Text} (plain : Plain symbol) (managedFree : Accepted managed) (userFree : Accepted user)
include plain managedFree userFree

omit managedFree userFree in
theorem heads_free (listed : marker ∈ reservedRegionMarkers) :
    Free marker (snapshotHeading symbol) ∧ Free marker notesHeading ∧ Free marker ['\n'] := by
  have inside := framed_inside (marker_framed marker listed)
  refine ⟨free_absent inside ?_,free_absent inside (by decide),free_absent inside (by decide)⟩
  have symbolFree : '<' ∉ symbol := plain_without plain (by decide)
  have early : '<' ∉ "\n# ".toList := by decide
  have late : '<' ∉ "\n\n## Current snapshot\n\n".toList := by decide
  simp only [snapshotHeading,List.mem_append,not_or]
  exact ⟨early,symbolFree,late⟩

theorem managed_read : extractRegion (cardBody symbol managed user) managedStart managedEnd = .ok managed := by
  have startListed : managedStart ∈ reservedRegionMarkers := by simp [reservedRegionMarkers]
  have endListed : managedEnd ∈ reservedRegionMarkers := by simp [reservedRegionMarkers]
  have headsStart := heads_free plain startListed
  have headsEnd := heads_free plain endListed
  have linked := body_linked symbol managed user
  rw [body_pieces]
  apply @extract_exact managedStart managedEnd managed [snapshotHeading symbol] [notesHeading,userStart,['\n'],user,userEnd,['\n']]
    (marker_framed _ startListed) (marker_framed _ endListed) linked
  · simp only [List.cons_append,List.nil_append,List.forall_mem_cons,List.not_mem_nil,IsEmpty.forall_iff,implies_true,and_true]
    exact ⟨⟨headsStart.1,headsEnd.1⟩,⟨managedFree _ startListed,managedFree _ endListed⟩,⟨headsStart.2.1,headsEnd.2.1⟩,
      ⟨by decide,by decide⟩,⟨headsStart.2.2,headsEnd.2.2⟩,⟨userFree _ startListed,userFree _ endListed⟩,⟨by decide,by decide⟩,
      ⟨headsStart.2.2,headsEnd.2.2⟩⟩
  · decide
  · decide

theorem user_read : extractRegion (cardBody symbol managed user) userStart userEnd = .ok user := by
  have startListed : userStart ∈ reservedRegionMarkers := by simp [reservedRegionMarkers]
  have endListed : userEnd ∈ reservedRegionMarkers := by simp [reservedRegionMarkers]
  have headsStart := heads_free plain startListed
  have headsEnd := heads_free plain endListed
  have linked := body_linked symbol managed user
  rw [body_pieces]
  apply @extract_exact userStart userEnd user [snapshotHeading symbol,managedStart,['\n'],managed,managedEnd,notesHeading] [['\n']]
    (marker_framed _ startListed) (marker_framed _ endListed) linked
  · simp only [List.cons_append,List.nil_append,List.forall_mem_cons,List.not_mem_nil,IsEmpty.forall_iff,implies_true,and_true]
    exact ⟨⟨headsStart.1,headsEnd.1⟩,⟨by decide,by decide⟩,⟨headsStart.2.2,headsEnd.2.2⟩,
      ⟨managedFree _ startListed,managedFree _ endListed⟩,⟨by decide,by decide⟩,⟨headsStart.2.1,headsEnd.2.1⟩,
      ⟨userFree _ startListed,userFree _ endListed⟩,⟨headsStart.2.2,headsEnd.2.2⟩⟩
  · decide
  · decide

end accepted

end regions

/- The front matter within a card. -/

theorem header_free (sound : front.Sound) : ∀ line ∈ front.entries.map fieldLine, Free hashField line := by
  have quote : '"' ∈ hashField := by decide
  have bare : ∀ {text : Text}, Plain text → '"' ∉ text := fun plain => plain_without plain (by decide)
  have symbol := bare (symbol_plain sound.symbol)
  have generation := bare (generation_plain front.generation)
  have stamp := bare (stamp_plain front.stamp)
  have entry : ∀ key value : Text, '"' ∉ key → '"' ∉ value → Free hashField (fieldLine (key,value)) := by
    intro key value first second
    apply free_absent quote
    simp only [fieldLine,List.mem_append,not_or]
    exact ⟨first,by decide,second⟩
  simp only [Front.entries,List.map_cons,List.map_nil,List.forall_mem_cons,List.not_mem_nil,IsEmpty.forall_iff,implies_true,and_true]
  refine ⟨entry _ _ (by decide) (by decide),entry _ _ (by decide) ?_,entry _ _ (by decide) (by decide),
    entry _ _ (by decide) symbol,entry _ _ (by decide) generation,entry _ _ (by decide) stamp,?_⟩
  · simp only [List.mem_append,not_or]
    exact ⟨by decide,symbol⟩
  · -- The opening quote is no part of the field but its last character.
    have split : fieldLine ("managed_hash".toList,'"' :: (front.managedHash ++ ['"'])) =
        ("managed_hash".toList ++ (": ".toList ++ ['"'])) ++ (front.managedHash ++ ['"']) := by
      simp only [fieldLine,List.append_assoc,List.cons_append,List.nil_append]
    have blank : ' ' ∉ front.managedHash := plain_without sound.managedHash (by decide)
    rw [split]
    apply free_append (by decide)
    · apply free_absent (show ' ' ∈ hashField by decide)
      simp only [List.mem_append,not_or]
      exact ⟨blank,by decide⟩
    · apply Or.inr
      intro c last
      rw [← List.append_assoc,List.getLast?_concat] at last
      obtain rfl : '"' = c := Option.some.inj last
      decide

theorem closed_card (front : Front) (documentHash managed user : Text) : cardText front documentHash managed user =
    "---\n".toList ++ (frontText front documentHash ++ ("\n---\n".toList ++ cardBody front.symbol managed user)) := by
  have quote : "\"\n---\n".toList = ['"'] ++ "\n---\n".toList := by decide
  rw [cardText,quote,frontText]
  simp only [List.append_assoc]

variable {documentHash : Text}

theorem split_closed (sound : front.Sound) (plain : Plain documentHash) (body : Text) :
    splitFrontmatter ("---\n".toList ++ (frontText front documentHash ++ ("\n---\n".toList ++ body))) =
      .ok (frontText front documentHash,body) := by
  have free : Free "\n---\n".toList (frontText front documentHash) := by
    apply free_longer (show ['\n','-'] <:+: "\n---\n".toList by decide)
    apply free_begun (by decide)
    rw [← lines_shape]
    intro line listed
    obtain ⟨entry,inside,rfl⟩ := List.mem_map.mp listed
    have visible := lines_visible sound plain entry inside
    have key : ∀ key ∈ (front.lines documentHash).map Prod.fst, key ≠ [] ∧ '-' ∉ key.head? := by
      simp [Front.lines,Front.entries]
    have here := key entry.1 (List.mem_map_of_mem inside)
    refine ⟨line_newline (fieldLine_unbroken visible.1 visible.2),?_⟩
    obtain ⟨first,tail,shape⟩ := List.exists_cons_of_ne_nil here.1
    have started := here.2
    rw [shape] at started
    rw [fieldLine,shape]
    exact started
  have border : Border "\n---\n".toList (frontText front documentHash) ("\n---\n".toList ++ body) := by
    apply Or.inr
    intro c last
    rw [frontText,← List.append_assoc,← List.append_assoc,List.getLast?_concat] at last
    obtain rfl : '"' = c := Option.some.inj last
    decide
  have first := cut_first (by decide) free border
  have dropped : ("---\n".toList ++ (frontText front documentHash ++ ("\n---\n".toList ++ body))).drop 4 =
      frontText front documentHash ++ ("\n---\n".toList ++ body) := List.drop_left' (by decide)
  rw [splitFrontmatter,if_pos (List.prefix_append _ _),dropped,first]

theorem split_card (sound : front.Sound) (plain : Plain documentHash) (managed user : Text) :
    splitFrontmatter (cardText front documentHash managed user) =
      .ok (frontText front documentHash,cardBody front.symbol managed user) := by
  rw [closed_card]
  exact split_closed sound plain _

theorem top_free (sound : front.Sound) : Free hashField ("---\n".toList ++ unlines (front.entries.map fieldLine)) := by
  have lines := free_unlines hashField_present (by decide) (header_free sound)
  apply free_append (by decide) lines
  apply Or.inr
  intro c last
  obtain rfl : '\n' = c := Option.some.inj last
  decide

omit [Platform] in
theorem top_border (left right : Text) : Border hashField left (hashField ++ right) := by
  apply Or.inl
  intro c head
  rw [List.head?_append] at head
  obtain rfl : 'd' = c := Option.some.inj head
  decide

theorem documentHash_removed (sound : front.Sound) (plain : Plain documentHash) (managed user : Text) :
    withoutDocumentHash (cardText front documentHash managed user) = cardText front [] managed user := by
  have first := @cut_first _ _ hashField ("---\n".toList ++ unlines (front.entries.map fieldLine))
    (documentHash ++ ("\"\n---\n".toList ++ cardBody front.symbol managed user)) hashField_present (top_free sound) (top_border _ _)
  have bare : ∀ c ∈ documentHash, decide (c ≠ '"') = true := by
    intro c inside
    have other := plain_without plain (show ¬ Plain ['"'] by decide)
    apply decide_eq_true
    intro same
    exact other (same ▸ inside)
  have closing : '"' ∈ documentHash ++ ("\"\n---\n".toList ++ cardBody front.symbol managed user) :=
    List.mem_append_right _ (List.mem_append_left _ (by decide))
  have dropped : ("\"\n---\n".toList ++ cardBody front.symbol managed user).dropWhile (fun c => decide (c ≠ '"')) =
      "\"\n---\n".toList ++ cardBody front.symbol managed user := rfl
  rw [withoutDocumentHash,cardText,← List.append_assoc,first]
  dsimp only
  rw [if_pos closing,List.dropWhile_append_of_pos bare,dropped,cardText,List.append_assoc,List.nil_append]

theorem parse_card (sound : front.Sound) {documentHash managed user : Text} (plain : Plain documentHash)
    (managedFree : Accepted managed) (userFree : Accepted user) : parseSymbolCard (cardText front documentHash managed user) =
      if hash managed ≠ front.managedHash then .error .managedHash
      else if hash (cardText front [] managed user) ≠ documentHash then .error .documentHash
      else .ok ⟨front.symbol,1,front.generation,front.managedHash,documentHash,managed,user,front.stamp⟩ := by
  have symbol := symbol_plain sound.symbol
  have kind : (front.values documentHash).lookup "entity_type".toList = some "symbol".toList := rfl
  simp only [parseSymbolCard,split_card sound plain,front_parsed sound plain,values_read sound,kind,documentHashForContent,
    documentHash_removed sound plain,managed_read symbol managedFree userFree,user_read symbol managedFree userFree,
    bind,Except.bind,pure,Except.pure,throw,throwThe,MonadExceptOf.throw]
  simp

/- Filling in the document hash. -/

-- What stands before, between and behind the two contents.
def cardOpening (symbol : Text) : Text := ("\n---\n".toList ++ (snapshotHeading symbol ++ managedStart)) ++ ['\n']

def cardMiddle : Text := (managedEnd ++ (notesHeading ++ userStart)) ++ ['\n']

def cardClosing : Text := userEnd ++ ['\n']

theorem card_parts (front : Front) (documentHash managed user : Text) : cardText front documentHash managed user =
    ("---\n".toList ++ unlines (front.entries.map fieldLine)) ++ (filledField documentHash ++
      (cardOpening front.symbol ++ (managed ++ (cardMiddle ++ (user ++ cardClosing))))) := by
  have shape : "\"\n---\n".toList = ['"'] ++ "\n---\n".toList := by decide
  rw [cardText,shape,cardOpening]
  generalize "---\n".toList = start
  generalize "\n---\n".toList = fence
  simp only [filledField,cardMiddle,cardClosing,cardBody,List.append_assoc,List.cons_append,List.nil_append]

theorem fill_card (sound : front.Sound) (documentHash managed user : Text) :
    replaceAll (fillIn documentHash) (cardText front [] managed user) =
      cardText front documentHash (replaceAll (fillIn documentHash) managed) (replaceAll (fillIn documentHash) user) := by
  have quote : '"' ∈ emptyField := by decide
  have openingFree : Free emptyField (cardOpening front.symbol) := by
    apply free_absent quote
    have symbol : '"' ∉ front.symbol := plain_without (symbol_plain sound.symbol) (by decide)
    simp only [cardOpening,snapshotHeading,List.mem_append,not_or]
    exact ⟨⟨by decide,⟨by decide,symbol,by decide⟩,by decide⟩,by decide⟩
  have newline : ∀ left right : Text, Border emptyField (left ++ ['\n']) right := by
    intro left right
    apply Or.inr
    intro c last
    rw [List.getLast?_concat] at last
    obtain rfl : '\n' = c := Option.some.inj last
    decide
  have middleApart : ∀ right, ∀ c ∈ (cardMiddle ++ right).head?, c ∉ emptyField := by
    intro right c head
    rw [List.head?_append] at head
    obtain rfl : '<' = c := Option.some.inj head
    decide
  have closingApart : ∀ c ∈ cardClosing.head?, c ∉ emptyField := by
    intro c head
    obtain rfl : '<' = c := Option.some.inj head
    decide
  have middleFree : Free emptyField cardMiddle := free_absent quote (by decide)
  have closingFree : Free emptyField cardClosing := free_absent quote (by decide)
  have topFree : Free emptyField ("---\n".toList ++ unlines (front.entries.map fieldLine)) :=
    free_longer (List.prefix_append hashField ['"']).isInfix (top_free sound)
  have topBorder : ∀ right, Border emptyField ("---\n".toList ++ unlines (front.entries.map fieldLine)) (emptyField ++ right) := by
    intro right
    apply Or.inl
    intro c head
    rw [List.head?_append] at head
    obtain rfl : 'd' = c := Option.some.inj head
    decide
  have filled : filledField [] = emptyField := rfl
  rw [card_parts,filled,fillIn,replace_past topFree (topBorder _),replace_here,replace_past openingFree (newline _ _),
    replace_append (middleApart _),replace_past middleFree (newline _ _),replace_append closingApart,replace_free closingFree,
    card_parts]

section contents
variable {documentHash content : Text}

omit [Platform] in
theorem fill_fixed (some' : documentHash ≠ []) : replaceAll (fillIn documentHash) content = content ↔ Free emptyField content := by
  constructor
  · intro same
    have size := List.length_pos_iff.mpr some'
    have more : emptyField.countP (fun _ => true) < (filledField documentHash).countP (fun _ => true) := by
      simp only [emptyField,filledField,List.countP_true,List.length_append,List.length_singleton]
      omega
    rcases (replace_grows more content).2 with free | grown
    · exact free
    · rw [fillIn] at same
      rw [same] at grown
      exact absurd grown (Nat.lt_irrefl _)
  · exact replace_free

omit [Platform] in
-- Filling in brings about no marker and no carriage return.
theorem fill_free (inside : c ∈ mark) (bare : '"' ∉ mark) (absent : c ∉ filledField documentHash)
    (free : Free mark content) : Free mark (replaceAll (fillIn documentHash) content) := by
  have shape : emptyField = "document_hash: ".toList ++ '"' :: ['"'] := by decide
  have shape' : filledField documentHash = "document_hash: ".toList ++ '"' :: (documentHash ++ ['"']) := by
    have split : hashField = "document_hash: ".toList ++ ['"'] := by decide
    rw [filledField,split,List.append_assoc]
    rfl
  apply free_replaced bare shape shape' (free_absent inside absent)
  · intro d last
    rw [filledField,← List.append_assoc,List.getLast?_concat] at last
    obtain rfl : '"' = d := Option.some.inj last
    exact bare
  · exact free

omit [Platform] in
theorem filled_without (plain : Plain documentHash) (odd : ¬ Plain [c]) (absent : c ∉ emptyField) :
    c ∉ filledField documentHash := by
  have own : c ∉ documentHash := plain_without plain odd
  simp only [emptyField,List.mem_append,not_or] at absent
  simp only [filledField,List.mem_append,not_or]
  exact ⟨absent.1,own,absent.2⟩

omit [Platform] in
theorem fill_accepted (plain : Plain documentHash) (accepted : Accepted content) :
    Accepted (replaceAll (fillIn documentHash) content) := by
  intro marker listed
  have framed := marker_framed marker listed
  exact fill_free (framed_inside framed) framed.2.2.2 (filled_without plain (by decide) (by decide)) (accepted marker listed)

omit [Platform] in
theorem free_single : Free [c] content ↔ c ∉ content := by
  constructor
  · intro free inside
    obtain ⟨before,behind,shape⟩ := List.append_of_mem inside
    exact free ⟨before,behind,by simp [shape]⟩
  · exact free_absent (List.mem_singleton_self c)

omit [Platform] in
theorem fill_returns (plain : Plain documentHash) (absent : '\r' ∉ content) : '\r' ∉ replaceAll (fillIn documentHash) content := by
  rw [← free_single] at absent ⊢
  exact fill_free (List.mem_singleton_self '\r') (by decide) (filled_without plain (by decide) (by decide)) absent

end contents

theorem card_returns (sound : front.Sound) {documentHash managed user : Text} (plain : Plain documentHash)
    (managedPlain : '\r' ∉ managed) (userPlain : '\r' ∉ user) : '\r' ∉ cardText front documentHash managed user := by
  have symbol : '\r' ∉ front.symbol := plain_without (symbol_plain sound.symbol) (by decide)
  have lines : '\r' ∉ unlines (front.entries.map fieldLine) := by
    apply unlines_plain
    intro line listed
    obtain ⟨entry,inside,rfl⟩ := List.mem_map.mp listed
    have visible := lines_visible sound plain entry (List.mem_append_left _ inside)
    exact fieldLine_unbroken visible.1 visible.2
  have filled : '\r' ∉ filledField documentHash := filled_without plain (by decide) (by decide)
  rw [card_parts]
  simp only [cardOpening,snapshotHeading,List.mem_append,not_or]
  exact ⟨⟨by decide,lines⟩,filled,⟨⟨by decide,⟨by decide,symbol,by decide⟩,by decide⟩,by decide⟩,managedPlain,by decide,
    userPlain,by decide⟩

/- What is read is part of the file. -/

section reading
omit [Platform]

theorem cut_split {marker text before behind : Text} (found : cut marker text = some (before,behind)) :
    text = before ++ (marker ++ behind) := by
  induction text generalizing before with
  | nil =>
    rw [cut] at found
    split at found
    · rename_i empty
      cases found
      rw [empty]
      rfl
    · cases found
  | cons c text ih =>
    rw [cut] at found
    split at found
    · rename_i here
      obtain ⟨rest,shape⟩ := here
      cases found
      rw [← shape,List.drop_left,List.nil_append]
    · obtain ⟨⟨early,late⟩,later,same⟩ := Option.map_eq_some_iff.mp found
      cases same
      rw [ih later]
      rfl

theorem extract_members {content start finish region : Text} (read : extractRegion content start finish = .ok region) :
    ∀ c ∈ region, c ∈ content := by
  unfold extractRegion at read
  split at read
  · cases read
  · split at read
    · split at read
      · cases read
      · dsimp only at read
        split at read
        · cases read
        · cases read
          exact fun c inside => List.mem_of_mem_take (List.mem_of_mem_drop inside)
    · cases read

theorem split_members {content frontmatter body : Text} (read : splitFrontmatter content = .ok (frontmatter,body)) :
    ∀ c ∈ body, c ∈ content := by
  unfold splitFrontmatter at read
  split at read
  · split at read
    · cases read
    · rename_i parts found
      cases read
      intro c inside
      apply List.mem_of_mem_drop (i:=4)
      rw [cut_split found]
      exact List.mem_append_right _ (List.mem_append_right _ inside)
  · cases read

end reading

variable {card : ParsedSymbolCard}

-- What a card is read from.
theorem parse_parts (parsed : parseSymbolCard content = .ok card) :
    ∃ frontmatter body values front, splitFrontmatter content = .ok (frontmatter,body) ∧ parseFrontmatter frontmatter = .ok values ∧
      readValues values = some front ∧ extractRegion body managedStart managedEnd = .ok card.managedContent ∧
      extractRegion body userStart userEnd = .ok card.userContent ∧ card.documentHash = front.documentHash := by
  unfold parseSymbolCard at parsed
  cases opened : splitFrontmatter content with
  | error problem => simp [opened,bind,Except.bind] at parsed
  | ok parts =>
    cases read : parseFrontmatter parts.1 with
    | error problem => simp [opened,read,bind,Except.bind] at parsed
    | ok values =>
      simp only [opened,read,bind,Except.bind] at parsed
      split at parsed
      · cases parsed
      · rename_i front valued
        split at parsed
        · cases parsed
        · cases managed : extractRegion parts.2 managedStart managedEnd with
          | error problem => simp [managed] at parsed
          | ok managedRegion =>
            cases user : extractRegion parts.2 userStart userEnd with
            | error problem => simp [managed,user] at parsed
            | ok userRegion =>
              simp only [managed,user] at parsed
              split at parsed
              · cases parsed
              · split at parsed
                · cases parsed
                · cases parsed
                  exact ⟨parts.1,parts.2,values,front,rfl,read,valued,managed,user,rfl⟩

theorem parse_members (parsed : parseSymbolCard content = .ok card) :
    (∀ c ∈ card.managedContent, c ∈ content) ∧ ∀ c ∈ card.userContent, c ∈ content := by
  obtain ⟨frontmatter,body,values,front,opened,_,_,managed,user,_⟩ := parse_parts parsed
  have members := split_members opened
  exact ⟨fun c inside => members c (extract_members managed c inside),fun c inside => members c (extract_members user c inside)⟩

/- Writing a card and reading it back. -/

-- Neither a carriage return nor what an empty document hash looks like.
def Clean (content : Text) : Prop := '\r' ∉ content ∧ Free emptyField content

def frontOf (symbol : Text) (generation : Int) (managed : Text) (stamp : Platform.Stamp) : Front := ⟨symbol,generation,stamp,hash managed⟩

theorem render_ok {symbol managed user : Text} {generation : Int} {stamp : Platform.Stamp} {hit : Text × Text × Text} :
    renderCard symbol generation managed user stamp = .ok hit ↔ Accepted managed ∧ Accepted user ∧
      hit = (replaceAll (fillIn (hash (cardText (frontOf symbol generation managed stamp) [] managed user)))
        (cardText (frontOf symbol generation managed stamp) [] managed user),hash managed,
        hash (cardText (frontOf symbol generation managed stamp) [] managed user)) := by
  have verdict : ∀ content, validateSymbolCardContent content = .ok () ∨ ∃ problem, validateSymbolCardContent content = .error problem := by
    intro content
    cases validateSymbolCardContent content with
    | ok value => exact .inl rfl
    | error problem => exact .inr ⟨problem,rfl⟩
  rw [← validate_ok,← validate_ok]
  unfold renderCard
  rcases verdict managed with first | ⟨problem,first⟩
  · rcases verdict user with second | ⟨problem,second⟩
    · simp only [first,second,bind,Except.bind,pure,Except.pure,Except.ok.injEq,true_and,frontOf]
      exact eq_comm
    · simp [first,second,bind,Except.bind]
  · simp [first,bind,Except.bind]

theorem rendered_reads {symbol managed user text managedHash documentHash : Text} {generation : Int} {stamp : Platform.Stamp}
    (canonical : normalizeSymbol symbol = some symbol)
    (rendered : renderCard symbol generation managed user stamp = .ok (text,managedHash,documentHash)) :
    (∃ card, parseSymbolCard (readText text) = .ok card ∧ card.managedContent = managed ∧ card.userContent = user ∧
      card.symbol = symbol ∧ card.generation = generation) ↔ Clean managed ∧ Clean user := by
  obtain ⟨managedFree,userFree,shape⟩ := render_ok.mp rendered
  obtain ⟨written,_,named⟩ := Prod.mk.inj shape |>.imp_right Prod.mk.inj
  have sound : (frontOf symbol generation managed stamp).Sound := ⟨canonical,hash_plain managed⟩
  have plain : Plain documentHash := by
    rw [named]
    exact hash_plain _
  have some' : documentHash ≠ [] := by
    rw [named]
    exact List.append_ne_nil_of_left_ne_nil (by decide) _
  rw [← named,fill_card sound] at written
  have parsed := parse_card sound plain (fill_accepted plain managedFree) (fill_accepted plain userFree)
  constructor
  · intro ⟨card,read,sameManaged,sameUser,_,_⟩
    have members := parse_members read
    have returns := universal_clean text
    have managedPlain : '\r' ∉ managed := fun inside => returns (members.1 _ (by rw [sameManaged]; exact inside))
    have userPlain : '\r' ∉ user := fun inside => returns (members.2 _ (by rw [sameUser]; exact inside))
    have kept : readText text = text := by
      apply universal_kept
      rw [written]
      exact card_returns sound plain (fill_returns plain managedPlain) (fill_returns plain userPlain)
    rw [kept,written,parsed] at read
    split at read
    · cases read
    · split at read
      · cases read
      · cases read
        exact ⟨⟨managedPlain,(fill_fixed some').mp sameManaged⟩,userPlain,(fill_fixed some').mp sameUser⟩
  · intro ⟨⟨managedPlain,managedClean⟩,userPlain,userClean⟩
    have kept : readText text = text := by
      apply universal_kept
      rw [written]
      exact card_returns sound plain (fill_returns plain managedPlain) (fill_returns plain userPlain)
    rw [(fill_fixed some').mpr managedClean,(fill_fixed some').mpr userClean] at written parsed
    rw [if_neg (by simp [frontOf]),if_neg (by simp [named])] at parsed
    rw [kept,written,parsed]
    exact ⟨_,rfl,rfl,rfl,rfl,rfl⟩

theorem write_ok {symbol managed text : Text}
    (written : writeSymbolCard file symbol managed userContent stamp = .ok (text,document)) :
    ∃ previous managedHash documentHash, loadExisting file = .ok previous ∧ normalizeSymbol symbol = some document.symbol ∧
      renderCard document.symbol document.generation managed (preservedUserContent previous userContent) stamp =
        .ok (text,managedHash,documentHash) ∧ document.documentHash = documentHash := by
  unfold writeSymbolCard at written
  cases named : normalizeSymbol symbol with
  | none => simp [named,throw,throwThe,MonadExceptOf.throw] at written
  | some canonical =>
    cases loaded : loadExisting file with
    | error problem => simp [named,loaded,bind,Except.bind] at written
    | ok previous =>
      simp only [named,loaded,bind,Except.bind] at written
      split at written
      · cases written
      · rename_i hit rendered
        cases written
        exact ⟨previous,hit.2.1,hit.2.2,rfl,rfl,rendered,rfl⟩

theorem load_some {text : Text} {card : ParsedSymbolCard} :
    loadExisting (some text) = .ok (some card) ↔ parseSymbolCard (readText text) = .ok card := by
  rw [loadExisting]
  cases parseSymbolCard (readText text) with
  | error problem => simp [Except.map]
  | ok other => simp [Except.map]

theorem card_reads_back {file : Option Text} {symbol managed text : Text} {userContent : Option Text} {stamp : Platform.Stamp}
    {document : MemoryDocument} {previous : Option ParsedSymbolCard} (loaded : loadExisting file = .ok previous)
    (written : writeSymbolCard file symbol managed userContent stamp = .ok (text,document)) :
    (∃ card, loadExisting (some text) = .ok (some card) ∧ card.managedContent = managed ∧
      card.userContent = preservedUserContent previous userContent ∧ card.symbol = document.symbol ∧
      card.generation = document.generation) ↔ Clean managed ∧ Clean (preservedUserContent previous userContent) := by
  obtain ⟨previous',managedHash,documentHash,loaded',named,rendered,_⟩ := write_ok written
  obtain rfl : previous = previous' := Except.ok.inj (loaded.symm.trans loaded')
  rw [← rendered_reads (symbol_again named) rendered]
  simp only [load_some]

end platform

-- A digest of decimal digits, and one time.
@[reducible] def samplePlatform : Platform where
  hexdigest text := Nat.toDigits 10 (text.map Char.toNat).sum
  Stamp := Unit
  isoformat _ := "2026-01-02T03:04:05+00:00".toList
  fromisoformat text := if text = "2026-01-02T03:04:05+00:00".toList then some () else none
  hexPlain text c inside := by
    have digit := Nat.isDigit_of_mem_toDigits (by decide) (by decide) inside
    simp [Char.isAlphanum,digit]
  stampPlain _ := (by decide : Plain "2026-01-02T03:04:05+00:00".toList)
  stampRead _ := rfl

def sampleFront (managed : Text) : @Front samplePlatform := @frontOf samplePlatform "FPT".toList 1 managed ()

def sampleHash (managed notes : Text) : Text := @hash samplePlatform (@cardText samplePlatform (sampleFront managed) [] managed notes)

def sampleText (managed notes : Text) : Text :=
  replaceAll (fillIn (sampleHash managed notes)) (@cardText samplePlatform (sampleFront managed) [] managed notes)

def sampleDocument (managed notes : Text) : @MemoryDocument samplePlatform :=
  @MemoryDocument.mk samplePlatform "FPT".toList "knowledge/symbols/FPT.md".toList 1 1 (@hash samplePlatform managed)
    (sampleHash managed notes) (estimateTokens managed) none ()

theorem sample_written {managed notes : Text} (managedFree : Accepted managed) (notesFree : Accepted notes) :
    @writeSymbolCard samplePlatform none "FPT".toList managed (some notes) () =
      .ok (sampleText managed notes,sampleDocument managed notes) := by
  have named : normalizeSymbol "FPT".toList = some "FPT".toList := by decide
  have rendered := (@render_ok samplePlatform "FPT".toList managed notes 1 () _).mpr ⟨managedFree,notesFree,rfl⟩
  simp only [writeSymbolCard,named,loadExisting,bind,Except.bind,pure,Except.pure,preservedUserContent,Option.getD_some,rendered]
  rfl

theorem price_clean : Accepted "price\n".toList ∧ Clean "price\n".toList := by
  unfold Accepted Clean
  decide

theorem note_clean : Accepted "note\n".toList ∧ Clean "note\n".toList := by
  unfold Accepted Clean
  decide

theorem card_reads_back_sample : ∃ card : @ParsedSymbolCard samplePlatform,
    @loadExisting samplePlatform (some (sampleText "price\n".toList "note\n".toList)) = .ok (some card) ∧
      @ParsedSymbolCard.managedContent samplePlatform card = "price\n".toList ∧
      @ParsedSymbolCard.userContent samplePlatform card = "note\n".toList ∧
      @ParsedSymbolCard.symbol samplePlatform card = "FPT".toList ∧ @ParsedSymbolCard.generation samplePlatform card = 1 :=
  (@card_reads_back samplePlatform none _ _ _ _ _ _ none rfl (sample_written price_clean.1 note_clean.1)).mpr
    ⟨price_clean.2,note_clean.2⟩

-- A note that says `document_hash: ""`.
theorem card_lost : ¬ ∀ [Platform] (file : Option Text) (symbol managed text : Text) (userContent : Option Text) (stamp : Platform.Stamp)
    (document : MemoryDocument) (previous : Option ParsedSymbolCard), loadExisting file = .ok previous →
    writeSymbolCard file symbol managed userContent stamp = .ok (text,document) →
    ∃ card, loadExisting (some text) = .ok (some card) ∧ card.managedContent = managed ∧
      card.userContent = preservedUserContent previous userContent ∧ card.symbol = document.symbol ∧
      card.generation = document.generation := by
  intro claimed
  have noteFree : Accepted emptyField := by
    unfold Accepted
    decide
  have written := sample_written price_clean.1 noteFree
  have rendered := (@render_ok samplePlatform "FPT".toList "price\n".toList emptyField 1 () _).mpr ⟨price_clean.1,noteFree,rfl⟩
  obtain ⟨card,read,same⟩ := @claimed samplePlatform none _ _ _ _ _ _ none rfl written
  have canonical : normalizeSymbol "FPT".toList = some "FPT".toList := by decide
  have clean := (@rendered_reads samplePlatform _ _ _ _ _ _ _ _ canonical rendered).mp
    ⟨card,(@load_some samplePlatform _ _).mp read,same⟩
  exact clean.2.2 List.infix_rfl

end OpenStock.SymbolMemory.Cards
