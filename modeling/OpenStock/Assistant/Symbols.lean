import OpenStock.Foundations.Text

namespace OpenStock.Assistant.Symbols
open Text

/- Symbol entities as a classifier emits them, and their one canonical form. -/

-- A decoded JSON value; of a value that is no text and no collection only its type is read.
inductive Entity where
  | none
  | str (text : Text)
  | list (items : List Entity)
  | tuple (items : List Entity)
  | object (kind : Text)

-- The reserved keys of the mapping; a missing key reads as `none`.
structure Entities where
  symbol : Option Entity
  symbols : Option Entity

structure CanonicalSymbols where
  symbols : List Text
  primarySymbol : Option Text
deriving DecidableEq

-- INVALID_SYMBOL_FORMAT, with what the message quotes.
inductive SymbolFormatError where
  | empty
  | notTicker (value : Text)
  | noTicker (kind : Text)
  | severalTickers (value : Entity)
  | contradiction (symbol : Text) (symbols : List Text)

-- `^[A-Z][A-Z0-9]{1,11}$`
def tickerPattern (text : Text) : Bool :=
  identifier Char.isUpper (fun c => c.isUpper || c.isDigit) 11 text && decide (2 ≤ text.length)

def markerPrefixes : List Text := [['C','P'],['C','K']]

def validateTicker (value : Text) : Except SymbolFormatError Text :=
  let candidate := upper (strip value)
  if candidate = [] then .error .empty
  else if tickerPattern candidate then .ok candidate
  else .error (.notTicker value)

def isQuote (c : Char) : Bool := c == '\'' || c == '"'

-- `str.strip("'\"")`
def stripQuotes (text : Text) : Text := ((text.dropWhile isQuote).reverse.dropWhile isQuote).reverse

def looksLikeSerializedCollection (text : Text) : Bool :=
  decide (2 ≤ text.length) && text.head?.any (fun c => c == '[' || c == '(') && text.getLast?.any (fun c => c == ')' || c == ']')

def splitSerializedCollection (text : Text) : List Text :=
  ((text.drop 1).dropLast.splitOn ',').map (fun part => strip (stripQuotes (strip part)))

def coerceText (value : Text) : List Text :=
  let text := strip value
  if text = [] then []
  else if looksLikeSerializedCollection text then (splitSerializedCollection text).filter (fun part => part ≠ [])
  else if ',' ∈ text then ((text.splitOn ',').filter (fun part => strip part ≠ [])).map (fun part => stripQuotes (strip part))
  else [stripQuotes text]

mutual
def coerceTokens : Entity → Except SymbolFormatError (List Text)
  | .none => .ok []
  | .str text => .ok (coerceText text)
  | .list items => coerceItems items
  | .tuple items => coerceItems items
  | .object kind => .error (.noTicker kind)
def coerceItems : List Entity → Except SymbolFormatError (List Text)
  | [] => .ok []
  | item :: items => do
    let tokens ← coerceTokens item
    let others ← coerceItems items
    .ok (tokens ++ others)
end

def stripMarkerPrefix (tokens : List Text) : List Text :=
  match tokens with
  | marker :: token :: others => if marker ∈ markerPrefixes then token :: others else tokens
  | _ => tokens

def dedupeFrom (seen : List Text) : List Text → Except SymbolFormatError (List Text)
  | [] => .ok seen
  | token :: tokens => do
    let ticker ← validateTicker token
    dedupeFrom (if ticker ∉ seen then seen ++ [ticker] else seen) tokens

def dedupeValidated (tokens : List Text) : Except SymbolFormatError (List Text) := dedupeFrom [] tokens

def validateFirst : List Text → Except SymbolFormatError (Option Text)
  | [] => .ok none
  | token :: _ => do
    let ticker ← validateTicker token
    .ok (some ticker)

-- The two fields, cross-checked. `value` is the raw `symbol`, for the message.
def resolve (value : Entity) (symbolField symbolsField : List Text) : Except SymbolFormatError CanonicalSymbols := do
  if symbolField.length > 1 then .error (.severalTickers value)
  let primaryFromSymbol ← validateFirst symbolField
  let canonicalSymbols ← dedupeValidated symbolsField
  match primaryFromSymbol with
  | some primary =>
    if canonicalSymbols ≠ [] ∧ primary ∉ canonicalSymbols then .error (.contradiction primary canonicalSymbols)
    else if canonicalSymbols = [] then .ok ⟨[primary],some primary⟩
    else .ok ⟨canonicalSymbols,some primary⟩
  | none => .ok ⟨canonicalSymbols,canonicalSymbols.head?⟩

def canonicalizeSymbolEntities (entities : Entities) : Except SymbolFormatError CanonicalSymbols := do
  let symbolTokens ← coerceTokens (entities.symbol.getD .none)
  let symbolsTokens ← coerceTokens (entities.symbols.getD .none)
  resolve (entities.symbol.getD .none) (stripMarkerPrefix symbolTokens) (stripMarkerPrefix symbolsTokens)

-- The mapping it leaves, and what it returns or raises.
def applyCanonicalSymbols (entities : Entities) : Entities × Except SymbolFormatError CanonicalSymbols :=
  match canonicalizeSymbolEntities entities with
  | .error failure => (entities,.error failure)
  | .ok canonical =>
    match canonical.primarySymbol with
    | some primary => (⟨some (.str primary),some (.list (canonical.symbols.map .str))⟩,.ok canonical)
    | none => (entities,.ok canonical)

/- Letter case. Texts differ in it when their capitals are the same. -/

def capital (c : Char) : Char :=
  if c.isLower then Char.ofNat (c.toNat - 32) else if c.toNat = 0x131 then 'I' else if c.toNat = 0x17F then 'S' else c

def capitals (text : Text) : Text := text.map capital

def Letter (c : Char) : Prop := c.isAlpha = true ∨ c.toNat = 0x131 ∨ c.toNat = 0x17F

theorem capital_cases (c : Char) : capital c = c ∨ (Letter c ∧ Letter (capital c) ∧ upperChar (capital c) = upperChar c) := by
  unfold capital
  by_cases lower : c.isLower = true
  · have range := lower_range lower
    have uppers : ∀ code < 91, 65 ≤ code → (Char.ofNat code).isUpper = true := by decide
    have upper := uppers (c.toNat - 32) (by omega) (by omega)
    rw [if_pos lower]
    refine .inr ⟨.inl (alpha_cases.mpr (.inr lower)),.inl (alpha_cases.mpr (.inl upper)),?_⟩
    rw [upperChar_fixed (.inl upper),upperChar,if_pos lower]
  · rw [if_neg lower]
    by_cases dotless : c.toNat = 0x131
    · refine .inr ⟨.inr (.inl dotless),.inl (by rw [if_pos dotless]; decide),?_⟩
      rw [if_pos dotless,upperChar_fixed (.inl (by decide)),upperChar,if_neg lower,dotless]
      rfl
    · rw [if_neg dotless]
      by_cases long : c.toNat = 0x17F
      · refine .inr ⟨.inr (.inr long),.inl (by rw [if_pos long]; decide),?_⟩
        rw [if_pos long,upperChar_fixed (.inl (by decide)),upperChar,if_neg lower,long]
        rfl
      · exact .inl (if_neg long)

theorem upperChar_capital (c : Char) : upperChar (capital c) = upperChar c := by
  rcases capital_cases c with same | ⟨_,_,same⟩
  · rw [same]
  · exact same

variable (text : Text)

@[simp] theorem upper_capitals : upper (capitals text) = upper text := by
  simp only [upper,capitals,List.flatMap_map,upperChar_capital]

-- A test that no letter passes does not tell a letter from its capital.
theorem capital_apart {test : Char → Bool} (letterless : ∀ c, Letter c → test c = false) (c : Char) : test (capital c) = test c := by
  rcases capital_cases c with same | ⟨small,large,_⟩
  · rw [same]
  · rw [letterless _ small,letterless _ large]

variable {c : Char}

theorem letter_range (letter : Letter c) :
    (65 ≤ c.toNat ∧ c.toNat ≤ 90) ∨ (97 ≤ c.toNat ∧ c.toNat ≤ 122) ∨ c.toNat = 0x131 ∨ c.toNat = 0x17F := by
  rcases letter with alpha | other
  · rw [alpha_cases] at alpha
    rcases alpha with large | small
    · exact .inl (upper_range large)
    · exact .inr (.inl (lower_range small))
  · exact .inr (.inr other)

theorem letter_not (letter : Letter c) (point : mark.toNat < 65 ∨ (90 < mark.toNat ∧ mark.toNat < 97)) :
    (c == mark) = false := by
  rw [beq_eq_false_iff_ne]
  intro same
  subst same
  have range := letter_range letter
  omega

@[simp] theorem isSpace_capital (c : Char) : isSpace (capital c) = isSpace c := by
  apply capital_apart
  intro letter inside
  have range := letter_range inside
  simp only [isSpace,Bool.or_eq_false_iff,Bool.and_eq_false_iff,decide_eq_false_iff_not,beq_eq_false_iff_ne]
  omega

@[simp] theorem isQuote_capital (c : Char) : isQuote (capital c) = isQuote c := by
  apply capital_apart
  intro letter inside
  rw [isQuote,letter_not inside (.inl (by decide)),letter_not inside (.inl (by decide))]
  rfl

theorem mark_capital {mark : Char} (point : mark.toNat < 65 ∨ (90 < mark.toNat ∧ mark.toNat < 97)) (c : Char) :
    (capital c == mark) = (c == mark) :=
  @capital_apart (fun c => c == mark) (fun _ letter => letter_not letter point) c

theorem dropWhile_capitals (alike : ∀ c, test (capital c) = test c) (text : Text) :
    (capitals text).dropWhile test = capitals (text.dropWhile test) := by
  have same : test ∘ capital = test := funext alike
  rw [capitals,List.dropWhile_map,same]
  rfl

theorem reverse_capitals : (capitals text).reverse = capitals text.reverse := List.map_reverse.symm

@[simp] theorem strip_capitals : strip (capitals text) = capitals (strip text) := by
  simp only [strip,stripLeft,dropWhile_capitals isSpace_capital,reverse_capitals]

@[simp] theorem stripQuotes_capitals : stripQuotes (capitals text) = capitals (stripQuotes text) := by
  simp only [stripQuotes,dropWhile_capitals isQuote_capital,reverse_capitals]

theorem split_capitals : (capitals text).splitOn ',' = (text.splitOn ',').map capitals := by
  rw [List.splitOn_eq_splitOnP,List.splitOn_eq_splitOnP]
  induction text with
  | nil => rfl
  | cons c text ih =>
    have head : capitals (c :: text) = capital c :: capitals text := rfl
    rw [head,List.splitOnP_cons_eq_if_modifyHead,List.splitOnP_cons_eq_if_modifyHead,ih,mark_capital (.inl (by decide))]
    by_cases comma : (c == ',') = true
    · simp [comma,capitals]
    · simp only [comma,Bool.false_eq_true,if_false]
      cases List.splitOnP (fun c => c == ',') text with
      | nil => rfl
      | cons part parts => simp [capitals]

theorem looks_capitals : looksLikeSerializedCollection (capitals text) = looksLikeSerializedCollection text := by
  have opens : (capitals text).head?.any (fun c => c == '[' || c == '(') = text.head?.any (fun c => c == '[' || c == '(') := by
    cases text with
    | nil => rfl
    | cons c text =>
      simp only [capitals,List.map_cons,List.head?_cons,Option.any_some]
      rw [mark_capital (.inr (by decide)),mark_capital (.inl (by decide))]
  have closes : (capitals text).getLast?.any (fun c => c == ')' || c == ']') = text.getLast?.any (fun c => c == ')' || c == ']') := by
    rw [capitals,List.getLast?_map]
    cases text.getLast? with
    | none => rfl
    | some c =>
      simp only [Option.map_some,Option.any_some]
      rw [mark_capital (.inl (by decide)),mark_capital (.inr (by decide))]
  rw [looksLikeSerializedCollection,opens,closes,capitals,List.length_map]
  rfl

theorem comma_capitals : ',' ∈ capitals text ↔ ',' ∈ text := by
  constructor
  · intro inside
    obtain ⟨c,member,same⟩ := List.mem_map.mp inside
    have comma := @mark_capital ',' (.inl (by decide)) c
    rw [same] at comma
    have equal : c = ',' := by simpa using comma.symm
    rwa [← equal]
  · intro inside
    exact List.mem_map.mpr ⟨',',inside,by decide⟩

@[simp] theorem capitals_empty {text : Text} : capitals text = [] ↔ text = [] := List.map_eq_nil_iff

theorem serialized_capitals : splitSerializedCollection (capitals text) = (splitSerializedCollection text).map capitals := by
  have inner : ((capitals text).drop 1).dropLast = capitals (text.drop 1).dropLast := by
    simp [capitals,List.map_dropLast]
  rw [splitSerializedCollection,inner,split_capitals,List.map_map,splitSerializedCollection,List.map_map]
  apply List.map_congr_left
  intro part _
  simp

theorem coerceText_capitals (value : Text) : coerceText (capitals value) = (coerceText value).map capitals := by
  unfold coerceText
  rw [strip_capitals]
  generalize strip value = text
  dsimp only
  by_cases empty : text = []
  · simp [empty,capitals]
  · rw [if_neg empty,if_neg (by rwa [capitals_empty]),looks_capitals]
    by_cases serialized : looksLikeSerializedCollection text = true
    · rw [if_pos serialized,if_pos serialized,serialized_capitals,List.filter_map]
      congr 1
      apply List.filter_congr
      intro part _
      simp
    · rw [if_neg serialized,if_neg serialized]
      by_cases comma : ',' ∈ text
      · rw [if_pos comma,if_pos ((comma_capitals text).mpr comma),split_capitals,List.filter_map,List.map_map,List.map_map]
        have same : (fun part => decide (strip part ≠ [])) ∘ capitals = fun part => decide (strip part ≠ []) := by
          funext part
          simp
        rw [same]
        apply List.map_congr_left
        intro part _
        simp
      · rw [if_neg comma,if_neg (fun inside => comma ((comma_capitals text).mp inside)),stripQuotes_capitals]
        rfl

mutual
def Entity.capitals : Entity → Entity
  | .none => .none
  | .str text => .str (Symbols.capitals text)
  | .list items => .list (capitalItems items)
  | .tuple items => .tuple (capitalItems items)
  | .object kind => .object kind
def Entity.capitalItems : List Entity → List Entity
  | [] => []
  | item :: items => item.capitals :: capitalItems items
end

mutual
theorem coerce_capitals (value : Entity) : coerceTokens value.capitals = (coerceTokens value).map (List.map capitals) := by
  cases value with
  | none => rfl
  | str text => simp [Entity.capitals,coerceTokens,coerceText_capitals,Except.map]
  | list items | tuple items => simpa [Entity.capitals,coerceTokens] using coerceItems_capitals items
  | object kind => rfl
theorem coerceItems_capitals (items : List Entity) :
    coerceItems (Entity.capitalItems items) = (coerceItems items).map (List.map capitals) := by
  cases items with
  | nil => rfl
  | cons item items =>
    rw [Entity.capitalItems,coerceItems,coerceItems,coerce_capitals item,coerceItems_capitals items]
    cases coerceTokens item with
    | error failure => rfl
    | ok tokens =>
      cases coerceItems items with
      | error failure => rfl
      | ok others => simp [Except.map,bind,Except.bind]
end

/- What tokens name. -/

def named (token : Text) : Text := upper (strip token)

theorem named_capitals (token : Text) : named (capitals token) = named token := by
  simp [named]

variable {tokens others : List Text}

theorem named_same (recased : tokens.map capitals = others.map capitals) : tokens.map named = others.map named := by
  have through : ∀ list : List Text, (list.map capitals).map named = list.map named := by
    intro list
    rw [List.map_map]
    exact List.map_congr_left (fun token _ => named_capitals token)
  rw [← through tokens,recased,through]

theorem validate_ok : validateTicker token = .ok ticker ↔ tickerPattern (named token) = true ∧ ticker = named token := by
  unfold validateTicker
  dsimp only
  rw [← named]
  by_cases empty : named token = []
  · simp [empty,tickerPattern,identifier]
  · rw [if_neg empty]
    by_cases pattern : tickerPattern (named token) = true
    · simp [pattern,eq_comm]
    · simp [pattern]

theorem eraseDups_snoc (done : List Text) (ticker : Text) :
    (done ++ [ticker]).eraseDups = if ticker ∉ done.eraseDups then done.eraseDups ++ [ticker] else done.eraseDups := by
  simp only [List.eraseDups_append,List.mem_eraseDups]
  by_cases met : ticker ∈ done
  · simp [met,List.removeAll]
  · simp [met,List.removeAll,List.eraseDups_cons]

theorem dedupe_ok {tokens done result : List Text} : dedupeFrom done.eraseDups tokens = .ok result ↔
    (∀ token ∈ tokens, tickerPattern (named token) = true) ∧ result = (done ++ tokens.map named).eraseDups := by
  induction tokens generalizing done with
  | nil =>
    rw [dedupeFrom,List.map_nil,List.append_nil]
    constructor
    · intro same
      injection same with same
      exact ⟨fun _ inside => absurd inside List.not_mem_nil,same.symm⟩
    · exact fun same => congrArg Except.ok same.2.symm
  | cons token tokens ih =>
    rw [dedupeFrom]
    cases validated : validateTicker token with
    | error failure =>
      have invalid : ¬ tickerPattern (named token) = true := by
        intro pattern
        rw [validate_ok.mpr ⟨pattern,rfl⟩] at validated
        cases validated
      simp [bind,Except.bind,invalid]
    | ok ticker =>
      obtain ⟨pattern,rfl⟩ := validate_ok.mp validated
      have next := @ih (done ++ [named token])
      rw [eraseDups_snoc,List.append_assoc,List.singleton_append] at next
      simp only [bind,Except.bind]
      rw [next]
      simp [pattern]

-- Every token a ticker, at most one in `symbol`, and that one among `symbols`.
def Accepted (symbolField symbolsField : List Text) : Prop :=
  symbolField.length ≤ 1 ∧ (∀ token ∈ symbolField ++ symbolsField, tickerPattern (named token) = true) ∧
    (symbolsField ≠ [] → ∀ token ∈ symbolField, named token ∈ symbolsField.map named)

def meaning (symbolField symbolsField : List Text) : CanonicalSymbols :=
  ⟨if symbolsField = [] then symbolField.map named else (symbolsField.map named).eraseDups,
    ((symbolField ++ symbolsField).map named).head?⟩

variable (tickers : List Text)

theorem eraseDups_head : tickers.eraseDups.head? = tickers.head? := by
  cases tickers with
  | nil => rfl
  | cons ticker tickers => simp [List.eraseDups_cons]

theorem eraseDups_empty {tickers : List Text} : tickers.eraseDups = [] ↔ tickers = [] := by
  cases tickers with
  | nil => simp
  | cons ticker tickers => simp [List.eraseDups_cons]

theorem validated_ok {tokens result : List Text} : dedupeValidated tokens = .ok result ↔
    (∀ token ∈ tokens, tickerPattern (named token) = true) ∧ result = (tokens.map named).eraseDups := by
  have deduped := @dedupe_ok tokens [] result
  rwa [List.eraseDups_nil,List.nil_append] at deduped

variable {canonical : CanonicalSymbols} {value : Entity} {symbolsField : List Text}

theorem resolve_none : resolve value [] symbolsField = .ok canonical ↔
      ∃ tickers, dedupeValidated symbolsField = .ok tickers ∧ canonical = ⟨tickers,tickers.head?⟩ := by
  cases deduped : dedupeValidated symbolsField with
  | error failure => simp [resolve,validateFirst,deduped,bind,Except.bind]
  | ok tickers => simp [resolve,validateFirst,deduped,bind,Except.bind,eq_comm]

theorem resolve_one : resolve value [token] symbolsField = .ok canonical ↔ tickerPattern (named token) = true ∧
      ∃ tickers, dedupeValidated symbolsField = .ok tickers ∧ (tickers ≠ [] → named token ∈ tickers) ∧
        canonical = ⟨if tickers = [] then [named token] else tickers,some (named token)⟩ := by
  cases validated : validateTicker token with
  | error failure =>
    have invalid : ¬ tickerPattern (named token) = true := by
      intro pattern
      rw [validate_ok.mpr ⟨pattern,rfl⟩] at validated
      cases validated
    simp [resolve,validateFirst,validated,invalid,bind,Except.bind]
  | ok ticker =>
    obtain ⟨pattern,rfl⟩ := validate_ok.mp validated
    cases deduped : dedupeValidated symbolsField with
    | error failure => simp [resolve,validateFirst,validated,deduped,bind,Except.bind]
    | ok tickers =>
      by_cases empty : tickers = []
      · simp [resolve,validateFirst,validated,deduped,pattern,empty,bind,Except.bind,eq_comm]
      · by_cases inside : named token ∈ tickers
        · simp [resolve,validateFirst,validated,deduped,pattern,empty,inside,bind,Except.bind,eq_comm]
        · simp [resolve,validateFirst,validated,deduped,pattern,empty,inside,bind,Except.bind]

variable {symbolField symbolsField : List Text}

-- What the cross-check returns, and when.
theorem resolve_ok : resolve value symbolField symbolsField = .ok canonical ↔
      Accepted symbolField symbolsField ∧ canonical = meaning symbolField symbolsField := by
  match symbolField with
  | [] =>
    rw [resolve_none]
    simp only [validated_ok,Accepted,meaning,List.nil_append]
    constructor
    · rintro ⟨tickers,⟨valid,rfl⟩,rfl⟩
      refine ⟨⟨Nat.zero_le _,valid,fun _ token inside => absurd inside List.not_mem_nil⟩,?_⟩
      by_cases empty : symbolsField = [] <;> simp [empty,eraseDups_head]
    · rintro ⟨⟨_,valid,_⟩,rfl⟩
      refine ⟨_,⟨valid,rfl⟩,?_⟩
      by_cases empty : symbolsField = [] <;> simp [empty,eraseDups_head]
  | [token] =>
    rw [resolve_one]
    simp only [validated_ok,Accepted,meaning]
    constructor
    · rintro ⟨pattern,tickers,⟨valid,rfl⟩,found,rfl⟩
      rw [ne_eq,eraseDups_empty,List.map_eq_nil_iff] at found
      refine ⟨⟨le_rfl,?_,?_⟩,?_⟩
      · intro other inside
        rcases List.mem_append.mp inside with only | later
        · rw [List.mem_singleton.mp only]
          exact pattern
        · exact valid other later
      · intro some other only
        rw [List.mem_singleton.mp only]
        exact List.mem_eraseDups.mp (found some)
      · simp [eraseDups_empty]
    · rintro ⟨⟨_,valid,found⟩,rfl⟩
      refine ⟨valid token (by simp),_,⟨fun other inside => valid other (by simp [inside]),rfl⟩,?_,by simp [eraseDups_empty]⟩
      intro some
      rw [ne_eq,eraseDups_empty,List.map_eq_nil_iff] at some
      exact List.mem_eraseDups.mpr (found some token (List.mem_singleton_self _))
  | token :: other :: others =>
    constructor
    · intro resolved
      simp [resolve,bind,Except.bind] at resolved
    · rintro ⟨⟨short,_⟩,_⟩
      simp at short

/- What is returned is sound, and when it is stable. -/

structure Sound (canonical : CanonicalSymbols) : Prop where
  tickers : ∀ symbol ∈ canonical.symbols, tickerPattern symbol = true
  distinct : canonical.symbols.Nodup
  primary : ∀ symbol, canonical.primarySymbol = some symbol → symbol ∈ canonical.symbols

theorem eraseDups_nodup : tickers.eraseDups.Nodup := by
  induction tickers using List.reverseRecOn with
  | nil => exact List.nodup_nil
  | append_singleton tickers ticker ih =>
    rw [eraseDups_snoc]
    by_cases met : ticker ∈ tickers.eraseDups
    · simpa [met] using ih
    · rw [if_pos met]
      exact List.nodup_append.mpr ⟨ih,List.nodup_singleton _,fun old inside new last same =>
        met (by rwa [← List.mem_singleton.mp last,← same])⟩

theorem eraseDups_fixed {tickers : List Text} (distinct : tickers.Nodup) : tickers.eraseDups = tickers := by
  induction tickers with
  | nil => rfl
  | cons ticker tickers ih =>
    obtain ⟨fresh,rest⟩ := List.nodup_cons.mp distinct
    have kept : tickers.filter (fun other => !other == ticker) = tickers := by
      apply List.filter_eq_self.mpr
      intro other inside
      simp only [Bool.not_eq_eq_eq_not,Bool.not_true,beq_eq_false_iff_ne]
      exact fun same => fresh (same ▸ inside)
    rw [List.eraseDups_cons,kept,ih rest]

theorem meaning_sound (accepted : Accepted symbolField symbolsField) : Sound (meaning symbolField symbolsField) := by
  obtain ⟨short,valid,found⟩ := accepted
  by_cases empty : symbolsField = []
  · subst empty
    match symbolField with
    | [] => exact ⟨by simp [meaning],by simp [meaning],by simp [meaning]⟩
    | [token] => exact ⟨by simpa [meaning] using valid,by simp [meaning],by simp [meaning]⟩
  · have listed : (meaning symbolField symbolsField).symbols = (symbolsField.map named).eraseDups := if_neg empty
    refine ⟨?_,?_,?_⟩
    · intro symbol inside
      rw [listed,List.mem_eraseDups,List.mem_map] at inside
      obtain ⟨token,member,rfl⟩ := inside
      exact valid token (List.mem_append_right _ member)
    · rw [listed]
      exact eraseDups_nodup _
    · intro symbol primary
      rw [listed,List.mem_eraseDups]
      have first : symbol ∈ (symbolField ++ symbolsField).map named := List.mem_of_head? primary
      rw [List.map_append,List.mem_append] at first
      rcases first with here | there
      · obtain ⟨token,member,rfl⟩ := List.mem_map.mp here
        exact found empty token member
      · exact there

-- A marker before another token: the first of them is taken off.
def Sheds : List Text → Prop
  | marker :: _ :: _ => marker ∈ markerPrefixes
  | _ => False

theorem shed_off {tokens : List Text} (sheds : Sheds tokens) : stripMarkerPrefix tokens = tokens.tail := by
  match tokens with
  | [] => rfl
  | [_] => cases sheds
  | marker :: token :: others => exact if_pos sheds

theorem shed_none {tokens : List Text} (keeps : ¬ Sheds tokens) : stripMarkerPrefix tokens = tokens := by
  match tokens with
  | [] => rfl
  | [_] => rfl
  | marker :: token :: others => exact if_neg keeps

variable {symbol : Text}

theorem ticker_letters (pattern : tickerPattern symbol = true) : ∀ c ∈ symbol, c.isUpper = true ∨ c.isDigit = true := by
  intro c inside
  rw [tickerPattern,Bool.and_eq_true] at pattern
  rcases identifier_members pattern.1 c inside with capital | either
  · exact .inl capital
  · simpa using either

theorem ticker_point (pattern : tickerPattern symbol = true) (inside : c ∈ symbol) :
    48 ≤ c.toNat ∧ c.toNat ≤ 90 ∧ isSpace c = false := by
  rcases ticker_letters pattern c inside with letter | digit
  · have range := upper_range letter
    exact ⟨by omega,by omega,alphanum_clean (alphanum_cases.mpr (.inl (.inl letter)))⟩
  · have range := digit_range digit
    exact ⟨by omega,by omega,alphanum_clean (by simp [Char.isAlphanum,digit])⟩

theorem named_ticker (pattern : tickerPattern symbol = true) : named symbol = symbol := by
  rw [named,strip_clean (fun c inside => (ticker_point pattern inside).2.2)]
  exact upper_fixed (fun c inside => upperChar_fixed (ticker_letters pattern c inside))

-- A ticker is its own token.
theorem coerce_ticker (pattern : tickerPattern symbol = true) : coerceText symbol = [symbol] := by
  have point : ∀ mark : Char, mark.toNat < 48 ∨ 90 < mark.toNat → ∀ c ∈ symbol, (c == mark) = false := by
    intro mark outside c inside
    rw [beq_eq_false_iff_ne]
    intro same
    subst same
    have range := ticker_point pattern inside
    omega
  have some : symbol ≠ [] := by
    intro empty
    rw [empty] at pattern
    cases pattern
  have plain : looksLikeSerializedCollection symbol = false := by
    cases symbol with
    | nil => rfl
    | cons c text =>
      have first := point '[' (.inr (by decide)) c List.mem_cons_self
      have second := point '(' (.inl (by decide)) c List.mem_cons_self
      simp [looksLikeSerializedCollection,first,second]
  have joined : ',' ∉ symbol := by
    intro inside
    have self := point ',' (.inl (by decide)) ',' inside
    cases self
  have unquoted : ∀ text : Text, (∀ c ∈ text, c ∈ symbol) → text.dropWhile isQuote = text := by
    intro text within
    cases text with
    | nil => rfl
    | cons c text =>
      have member := within c List.mem_cons_self
      have bare : isQuote c = false := by
        rw [isQuote,point '\'' (.inl (by decide)) c member,point '"' (.inl (by decide)) c member]
        rfl
      simp [bare]
  unfold coerceText
  rw [strip_clean (fun c inside => (ticker_point pattern inside).2.2)]
  dsimp only
  rw [if_neg some,plain,if_neg Bool.false_ne_true,if_neg joined,stripQuotes,unquoted symbol (fun _ inside => inside),
    unquoted symbol.reverse (fun _ inside => List.mem_reverse.mp inside),List.reverse_reverse]

variable {symbols : List Text}

theorem coerce_tickers (valid : ∀ symbol ∈ symbols, tickerPattern symbol = true) :
    coerceItems (symbols.map .str) = .ok symbols := by
  induction symbols with
  | nil => rfl
  | cons symbol symbols ih =>
    rw [List.map_cons,coerceItems,coerceTokens,coerce_ticker (valid symbol List.mem_cons_self),
      ih (fun other inside => valid other (List.mem_cons_of_mem _ inside))]
    rfl

theorem tickers_named (valid : ∀ symbol ∈ symbols, tickerPattern symbol = true) : symbols.map named = symbols := by
  calc symbols.map named = symbols.map id := List.map_congr_left (fun symbol inside => named_ticker (valid symbol inside))
    _ = symbols := List.map_id _

-- The rewritten mapping.
def rewritten (canonical : CanonicalSymbols) (primary : Text) : Entities :=
  ⟨some (.str primary),some (.list (canonical.symbols.map .str))⟩

variable {primary : Text}

theorem canonicalize_again (sound : Sound canonical)
    (given : canonical.primarySymbol = some primary) : canonicalizeSymbolEntities (rewritten canonical primary) =
      resolve (.str primary) [primary] (stripMarkerPrefix canonical.symbols) := by
  have pattern := sound.tickers primary (sound.primary primary given)
  have first : coerceTokens (.str primary) = .ok [primary] := by rw [coerceTokens,coerce_ticker pattern]
  have second : coerceTokens (.list (canonical.symbols.map .str)) = .ok canonical.symbols := by
    rw [coerceTokens,coerce_tickers sound.tickers]
  simp only [canonicalizeSymbolEntities,rewritten,Option.getD_some,first,second,bind,Except.bind]
  rfl

theorem resolve_again (sound : Sound canonical) (given : canonical.primarySymbol = some primary) :
    resolve (.str primary) [primary] (stripMarkerPrefix canonical.symbols) = .ok canonical ↔ ¬ Sheds canonical.symbols := by
  have inside := sound.primary primary given
  have pattern := sound.tickers primary inside
  constructor
  · intro resolved sheds
    rw [shed_off sheds,resolve_ok] at resolved
    obtain ⟨_,same⟩ := resolved
    match shape : canonical.symbols with
    | [] | [_] => rw [shape] at sheds; cases sheds
    | marker :: token :: others =>
      have valid : ∀ symbol ∈ token :: others, tickerPattern symbol = true := by
        intro symbol later
        exact sound.tickers symbol (by rw [shape]; exact List.mem_cons_of_mem _ later)
      have whole : (meaning [primary] (token :: others)).symbols = ((token :: others).map named).eraseDups := by simp [meaning]
      have listed := congrArg CanonicalSymbols.symbols same
      rw [shape,List.tail_cons,whole,tickers_named valid] at listed
      have met : marker ∈ (token :: others).eraseDups := by
        rw [← listed]
        exact List.mem_cons_self
      have distinct := sound.distinct
      rw [shape] at distinct
      exact (List.nodup_cons.mp distinct).1 (List.mem_eraseDups.mp met)
  · intro keeps
    rw [shed_none keeps,resolve_ok]
    have names := tickers_named sound.tickers
    refine ⟨⟨le_rfl,?_,?_⟩,?_⟩
    · intro token listed
      rcases List.mem_append.mp listed with only | later
      · rwa [List.mem_singleton.mp only,named_ticker pattern]
      · rw [named_ticker (sound.tickers token later)]
        exact sound.tickers token later
    · intro _ token only
      rwa [List.mem_singleton.mp only,named_ticker pattern,names]
    · have some : canonical.symbols ≠ [] := List.ne_nil_of_mem inside
      rw [meaning,if_neg some,names,eraseDups_fixed sound.distinct,List.map_append,List.map_singleton,named_ticker pattern]
      cases canonical
      cases given
      rfl

-- A first token that names a marker, and another that names something else.
def MarkerAlone : List Text → Prop
  | [] => True
  | first :: others => named first ∈ markerPrefixes → ∀ token ∈ others, named token = named first

theorem sheds_again (accepted : Accepted symbolField symbolsField) :
    ¬ Sheds (meaning symbolField symbolsField).symbols ↔ MarkerAlone symbolsField := by
  match symbolsField with
  | [] =>
    match symbolField with
    | [] | [token] => simp [meaning,Sheds,MarkerAlone]
    | _ :: _ :: _ => simp [Accepted] at accepted
  | first :: others =>
    have listed : (meaning symbolField (first :: others)).symbols =
        named first :: ((others.map named).filter (fun name => !name == named first)).eraseDups := by
      simp [meaning,List.eraseDups_cons]
    rw [listed]
    have alone : ((others.map named).filter (fun name => !name == named first)).eraseDups = [] ↔
        ∀ token ∈ others, named token = named first := by
      rw [eraseDups_empty,List.filter_eq_nil_iff]
      simp
    cases rest : ((others.map named).filter (fun name => !name == named first)).eraseDups with
    | nil => exact ⟨fun _ _ => alone.mp rest,fun _ sheds => sheds⟩
    | cons name names =>
      have several : ¬ ∀ token ∈ others, named token = named first := by
        intro one
        rw [alone.mpr one] at rest
        cases rest
      exact ⟨fun keeps marker => absurd marker keeps,fun single marker => several (single marker)⟩

/- The theorem. -/

-- The same mapping up to letter case.
def Recased (entities other : Entities) : Prop :=
  (entities.symbol.getD .none).capitals = (other.symbol.getD .none).capitals ∧
    (entities.symbols.getD .none).capitals = (other.symbols.getD .none).capitals

-- What is returned is sound, applying again changes nothing, and letter case does not matter.
def Canonicalized (entities other : Entities) : Prop :=
  (∀ canonical, (applyCanonicalSymbols entities).2 = .ok canonical → Sound canonical ∧
    applyCanonicalSymbols (applyCanonicalSymbols entities).1 = ((applyCanonicalSymbols entities).1,.ok canonical)) ∧
  (applyCanonicalSymbols entities).2.toOption = (applyCanonicalSymbols other).2.toOption

-- The token after a leading marker names it too.
def Repeated : List Text → Prop
  | marker :: token :: _ => named token = named marker
  | _ => False

-- Of the tokens of `symbol` and `symbols` in both mappings.
def MarkersAgree (symbolTokens symbolsTokens otherTokens othersTokens : List Text) : Prop :=
  Accepted (stripMarkerPrefix symbolTokens) (stripMarkerPrefix symbolsTokens) ∨
      Accepted (stripMarkerPrefix otherTokens) (stripMarkerPrefix othersTokens) →
    (Accepted (stripMarkerPrefix symbolTokens) (stripMarkerPrefix symbolsTokens) → MarkerAlone (stripMarkerPrefix symbolsTokens)) ∧
      (Sheds symbolTokens ↔ Sheds otherTokens) ∧ ((Sheds symbolsTokens ↔ Sheds othersTokens) ∨ Repeated symbolsTokens)

theorem apply_result (entities : Entities) : (applyCanonicalSymbols entities).2 = canonicalizeSymbolEntities entities := by
  unfold applyCanonicalSymbols
  cases canonicalizeSymbolEntities entities with
  | error failure => rfl
  | ok canonical =>
    dsimp only
    cases canonical.primarySymbol <;> rfl

variable {entities : Entities}

theorem apply_named (ran : canonicalizeSymbolEntities entities = .ok canonical)
    (given : canonical.primarySymbol = some primary) :
    applyCanonicalSymbols entities = (rewritten canonical primary,.ok canonical) := by
  simp [applyCanonicalSymbols,ran,given,rewritten]

theorem apply_unnamed (ran : canonicalizeSymbolEntities entities = .ok canonical)
    (given : canonical.primarySymbol = none) : applyCanonicalSymbols entities = (entities,.ok canonical) := by
  simp [applyCanonicalSymbols,ran,given]

variable {symbolTokens symbolsTokens : List Text}

theorem canonicalize_tokens (first : coerceTokens (entities.symbol.getD .none) = .ok symbolTokens)
    (second : coerceTokens (entities.symbols.getD .none) = .ok symbolsTokens) : canonicalizeSymbolEntities entities =
      resolve (entities.symbol.getD .none) (stripMarkerPrefix symbolTokens) (stripMarkerPrefix symbolsTokens) := by
  simp only [canonicalizeSymbolEntities,first,second,bind,Except.bind]

theorem meaning_unnamed {symbolField symbolsField : List Text} (unnamed : (meaning symbolField symbolsField).primarySymbol = none) :
    (meaning symbolField symbolsField).symbols = [] := by
  rw [meaning,List.head?_eq_none_iff,List.map_eq_nil_iff,List.append_eq_nil_iff] at unnamed
  rw [unnamed.1,unnamed.2]
  rfl

-- Applying again gives the same unless the canonical symbols begin with a marker.
theorem applied_again (first : coerceTokens (entities.symbol.getD .none) = .ok symbolTokens)
    (second : coerceTokens (entities.symbols.getD .none) = .ok symbolsTokens)
    (accepted : Accepted (stripMarkerPrefix symbolTokens) (stripMarkerPrefix symbolsTokens)) :
    applyCanonicalSymbols (applyCanonicalSymbols entities).1 = ((applyCanonicalSymbols entities).1,
      .ok (meaning (stripMarkerPrefix symbolTokens) (stripMarkerPrefix symbolsTokens))) ↔
        MarkerAlone (stripMarkerPrefix symbolsTokens) := by
  have sound := meaning_sound accepted
  have unnamed := @meaning_unnamed (stripMarkerPrefix symbolTokens) (stripMarkerPrefix symbolsTokens)
  have ran := canonicalize_tokens first second
  rw [resolve_ok.mpr ⟨accepted,rfl⟩] at ran
  rw [← sheds_again accepted]
  generalize meaning (stripMarkerPrefix symbolTokens) (stripMarkerPrefix symbolsTokens) = canonical at sound ran unnamed ⊢
  cases given : canonical.primarySymbol with
  | none =>
    have same := apply_unnamed ran given
    rw [same,same,unnamed given]
    exact ⟨fun _ sheds => sheds,fun _ => rfl⟩
  | some primary =>
    rw [apply_named ran given,← resolve_again sound given,← canonicalize_again sound given]
    constructor
    · intro same
      rw [← apply_result,same]
    · exact fun again => apply_named again given

theorem map_same {tokens others : Except SymbolFormatError (List Text)}
    (recased : tokens.map (List.map capitals) = others.map (List.map capitals)) (given : tokens = .ok listed) :
    ∃ found, others = .ok found ∧ listed.map capitals = found.map capitals := by
  subst given
  cases others with
  | error failure => cases recased
  | ok found => exact ⟨found,rfl,Except.ok.inj recased⟩

theorem recased_tokens {value other : Entity} (recased : value.capitals = other.capitals) :
    (coerceTokens value).map (List.map capitals) = (coerceTokens other).map (List.map capitals) := by
  rw [← coerce_capitals,recased,coerce_capitals]

-- A mapping is refused when one of its values is no text and no collection of texts.
theorem refused_without_tokens (refused : ¬ ∃ symbolTokens symbolsTokens,
    coerceTokens (entities.symbol.getD .none) = .ok symbolTokens ∧ coerceTokens (entities.symbols.getD .none) = .ok symbolsTokens) :
    ∃ failure, canonicalizeSymbolEntities entities = .error failure := by
  unfold canonicalizeSymbolEntities
  cases first : coerceTokens (entities.symbol.getD .none) with
  | error failure => exact ⟨failure,rfl⟩
  | ok symbolTokens =>
    cases second : coerceTokens (entities.symbols.getD .none) with
    | error failure => exact ⟨failure,rfl⟩
    | ok symbolsTokens => exact absurd ⟨_,_,first,second⟩ refused

/- Tokens read with and without their leading marker. -/

-- What is accepted, and what it means, is told by what the tokens name.
theorem accepted_named {symbolField symbolsField otherField othersField : List Text} (first : symbolField.map named = otherField.map named)
    (second : symbolsField.map named = othersField.map named) (accepted : Accepted symbolField symbolsField) :
    Accepted otherField othersField ∧ meaning symbolField symbolsField = meaning otherField othersField := by
  obtain ⟨short,valid,found⟩ := accepted
  have sizes : symbolField.length = otherField.length := by simpa using congrArg List.length first
  have empty : symbolsField = [] ↔ othersField = [] := by
    rw [← @List.map_eq_nil_iff _ _ named symbolsField,second,List.map_eq_nil_iff]
  refine ⟨⟨by omega,?_,?_⟩,?_⟩
  · intro token inside
    have name : named token ∈ (symbolField ++ symbolsField).map named := by
      rw [List.map_append,first,second,← List.map_append]
      exact List.mem_map_of_mem inside
    obtain ⟨paired,member,same⟩ := List.mem_map.mp name
    rw [← same]
    exact valid paired member
  · intro some token inside
    have name : named token ∈ symbolField.map named := by
      rw [first]
      exact List.mem_map_of_mem inside
    obtain ⟨paired,member,same⟩ := List.mem_map.mp name
    rw [← same,← second]
    exact found (fun none => some (empty.mp none)) paired member
  · simp only [meaning,List.map_append,first,second]
    by_cases none : symbolsField = []
    · rw [if_pos none,if_pos (empty.mp none)]
    · rw [if_neg none,if_neg (fun other => none (empty.mpr other))]

section Pairs

variable {symbolTokens symbolsTokens otherTokens othersTokens : List Text}

theorem shed_named (names : tokens.map named = others.map named) (agree : Sheds tokens ↔ Sheds others) :
    (stripMarkerPrefix tokens).map named = (stripMarkerPrefix others).map named := by
  by_cases sheds : Sheds tokens
  · rw [shed_off sheds,shed_off (agree.mp sheds),List.map_tail,List.map_tail,names]
  · rw [shed_none sheds,shed_none (fun other => sheds (agree.mpr other)),names]

theorem repeated_named (names : tokens.map named = others.map named) (repeats : Repeated tokens) : Repeated others := by
  match tokens,others with
  | [],_ | [_],_ => cases repeats
  | marker :: token :: _,[] => cases names
  | marker :: token :: _,[_] => simp at names
  | marker :: token :: _,first :: second :: _ =>
    simp only [List.map_cons,List.cons.injEq] at names
    have same : named token = named marker := repeats
    rw [names.1,names.2.1] at same
    exact same

-- A repeated marker adds nothing.
theorem repeated_tail {symbolField tokens : List Text} (repeats : Repeated tokens) :
    (Accepted symbolField tokens ↔ Accepted symbolField tokens.tail) ∧ meaning symbolField tokens.tail = meaning symbolField tokens := by
  match tokens with
  | [] | [_] => cases repeats
  | marker :: token :: others =>
    have same : named token = named marker := repeats
    refine ⟨?_,?_⟩
    · simp only [Accepted,List.tail_cons,List.mem_append,List.mem_cons,List.map_cons]
      constructor
      · intro ⟨short,valid,found⟩
        refine ⟨short,?_,?_⟩
        · rintro other (inside | inside)
          · exact valid other (.inl inside)
          · exact valid other (.inr (.inr inside))
        · intro _ other inside
          have either := found (List.cons_ne_nil _ _) other inside
          rwa [same,or_self_left,← same] at either
      · intro ⟨short,valid,found⟩
        refine ⟨short,?_,?_⟩
        · rintro other (inside | rfl | inside)
          · exact valid other (.inl inside)
          · rw [← same]
            exact valid token (.inr (.inl rfl))
          · exact valid other (.inr inside)
        · intro _ other inside
          exact .inr (found (List.cons_ne_nil _ _) other inside)
    · cases symbolField with
      | nil | cons first rest => simp [meaning,List.eraseDups_cons,same]

theorem sheds_forced (first : symbolTokens.map named = otherTokens.map named) (second : symbolsTokens.map named = othersTokens.map named)
    (other : Accepted (stripMarkerPrefix otherTokens) (stripMarkerPrefix othersTokens))
    (same : meaning (stripMarkerPrefix symbolTokens) (stripMarkerPrefix symbolsTokens) =
      meaning (stripMarkerPrefix otherTokens) (stripMarkerPrefix othersTokens)) :
    (Sheds symbolTokens → Sheds otherTokens) ∧ (Sheds symbolsTokens → Sheds othersTokens ∨ Repeated symbolsTokens) := by
  constructor
  · intro sheds
    by_contra keeps
    have short := other.1
    rw [shed_none keeps,← @List.length_map _ _ otherTokens named,← first,List.length_map] at short
    match symbolTokens with
    | [] => cases sheds
    | [_] => cases sheds
    | _ :: _ :: _ => simp at short
  · intro sheds
    by_cases keeps : Sheds othersTokens
    · exact .inl keeps
    · refine .inr ?_
      have listed := congrArg CanonicalSymbols.symbols same
      rw [shed_off sheds,shed_none keeps] at listed
      match symbolsTokens,othersTokens with
      | [],_ => cases sheds
      | [_],_ => cases sheds
      | marker :: token :: _,[] => cases second
      | marker :: token :: _,paired :: _ =>
        simp only [List.map_cons,List.cons.injEq] at second
        have heads := congrArg List.head? listed
        simp [meaning,eraseDups_head,← second.1] at heads
        exact heads

theorem repeated_strip {tokens : List Text} (symbolField : List Text) (repeats : Repeated tokens) :
    (Accepted symbolField (stripMarkerPrefix tokens) ↔ Accepted symbolField tokens) ∧
      meaning symbolField (stripMarkerPrefix tokens) = meaning symbolField tokens := by
  by_cases sheds : Sheds tokens
  · rw [shed_off sheds]
    have tail := @repeated_tail symbolField tokens repeats
    exact ⟨tail.1.symm,tail.2⟩
  · rw [shed_none sheds]
    exact ⟨Iff.rfl,rfl⟩

-- What one mapping is accepted with, the other is, when the markers agree.
theorem outcome_moves (first : symbolTokens.map named = otherTokens.map named) (second : symbolsTokens.map named = othersTokens.map named)
    (agree : Sheds symbolTokens ↔ Sheds otherTokens) (either : (Sheds symbolsTokens ↔ Sheds othersTokens) ∨ Repeated symbolsTokens)
    (accepted : Accepted (stripMarkerPrefix symbolTokens) (stripMarkerPrefix symbolsTokens)) :
    Accepted (stripMarkerPrefix otherTokens) (stripMarkerPrefix othersTokens) ∧
      meaning (stripMarkerPrefix symbolTokens) (stripMarkerPrefix symbolsTokens) =
        meaning (stripMarkerPrefix otherTokens) (stripMarkerPrefix othersTokens) := by
  have fields := shed_named first agree
  rcases either with both | repeats
  · exact accepted_named fields (shed_named second both) accepted
  · have here := repeated_strip (stripMarkerPrefix symbolTokens) repeats
    have there := repeated_strip (stripMarkerPrefix otherTokens) (repeated_named second repeats)
    obtain ⟨moved,same⟩ := accepted_named fields second (here.1.mp accepted)
    exact ⟨there.1.mpr moved,here.2.trans (same.trans there.2.symm)⟩

theorem toOption_some {result : Except SymbolFormatError CanonicalSymbols} :
    result.toOption = some canonical ↔ result = .ok canonical := by
  cases result with
  | error failure | ok found => simp [Except.toOption]

theorem outcomes_same (first : symbolTokens.map named = otherTokens.map named) (second : symbolsTokens.map named = othersTokens.map named)
    (value another : Entity) : (resolve value (stripMarkerPrefix symbolTokens) (stripMarkerPrefix symbolsTokens)).toOption =
        (resolve another (stripMarkerPrefix otherTokens) (stripMarkerPrefix othersTokens)).toOption ↔
      (Accepted (stripMarkerPrefix symbolTokens) (stripMarkerPrefix symbolsTokens) ∨
          Accepted (stripMarkerPrefix otherTokens) (stripMarkerPrefix othersTokens) →
        (Sheds symbolTokens ↔ Sheds otherTokens) ∧ ((Sheds symbolsTokens ↔ Sheds othersTokens) ∨ Repeated symbolsTokens)) := by
  have left : ∀ canonical, (resolve value (stripMarkerPrefix symbolTokens) (stripMarkerPrefix symbolsTokens)).toOption = some canonical ↔
      Accepted (stripMarkerPrefix symbolTokens) (stripMarkerPrefix symbolsTokens) ∧
        canonical = meaning (stripMarkerPrefix symbolTokens) (stripMarkerPrefix symbolsTokens) :=
    fun canonical => toOption_some.trans resolve_ok
  have right : ∀ canonical, (resolve another (stripMarkerPrefix otherTokens) (stripMarkerPrefix othersTokens)).toOption = some canonical ↔
      Accepted (stripMarkerPrefix otherTokens) (stripMarkerPrefix othersTokens) ∧
        canonical = meaning (stripMarkerPrefix otherTokens) (stripMarkerPrefix othersTokens) :=
    fun canonical => toOption_some.trans resolve_ok
  constructor
  · intro same either
    have both : Accepted (stripMarkerPrefix symbolTokens) (stripMarkerPrefix symbolsTokens) ∧
        Accepted (stripMarkerPrefix otherTokens) (stripMarkerPrefix othersTokens) ∧
          meaning (stripMarkerPrefix symbolTokens) (stripMarkerPrefix symbolsTokens) =
            meaning (stripMarkerPrefix otherTokens) (stripMarkerPrefix othersTokens) := by
      rcases either with accepted | accepted
      · have here := (left _).mpr ⟨accepted,rfl⟩
        rw [same,right] at here
        exact ⟨accepted,here⟩
      · have there := (right _).mpr ⟨accepted,rfl⟩
        rw [← same,left] at there
        exact ⟨there.1,accepted,there.2.symm⟩
    obtain ⟨here,there,equal⟩ := both
    have forward := sheds_forced first second there equal
    have backward := sheds_forced first.symm second.symm here equal.symm
    refine ⟨⟨forward.1,backward.1⟩,?_⟩
    by_cases repeats : Repeated symbolsTokens
    · exact .inr repeats
    · refine .inl ⟨fun sheds => (forward.2 sheds).resolve_right repeats,fun sheds => (backward.2 sheds).resolve_right ?_⟩
      exact fun other => repeats (repeated_named second.symm other)
  · intro condition
    apply Option.ext
    intro canonical
    rw [left,right]
    constructor
    · rintro ⟨accepted,rfl⟩
      obtain ⟨agree,either⟩ := condition (.inl accepted)
      exact outcome_moves first second agree either accepted
    · rintro ⟨accepted,rfl⟩
      obtain ⟨agree,either⟩ := condition (.inr accepted)
      refine outcome_moves first.symm second.symm agree.symm ?_ accepted
      exact either.imp Iff.symm (repeated_named second)

end Pairs

theorem canonical_stable (entities other : Entities) (recased : Recased entities other) : Canonicalized entities other ↔
    ∀ symbolTokens symbolsTokens otherTokens othersTokens,
      coerceTokens (entities.symbol.getD .none) = .ok symbolTokens → coerceTokens (entities.symbols.getD .none) = .ok symbolsTokens →
        coerceTokens (other.symbol.getD .none) = .ok otherTokens → coerceTokens (other.symbols.getD .none) = .ok othersTokens →
          MarkersAgree symbolTokens symbolsTokens otherTokens othersTokens := by
  unfold Canonicalized
  rw [apply_result,apply_result]
  by_cases read : ∃ symbolTokens symbolsTokens,
      coerceTokens (entities.symbol.getD .none) = .ok symbolTokens ∧ coerceTokens (entities.symbols.getD .none) = .ok symbolsTokens
  · obtain ⟨symbolTokens,symbolsTokens,first,second⟩ := read
    obtain ⟨otherTokens,third,sameFirst⟩ := map_same (recased_tokens recased.1) first
    obtain ⟨othersTokens,fourth,sameSecond⟩ := map_same (recased_tokens recased.2) second
    have outcomes := outcomes_same (named_same sameFirst) (named_same sameSecond) (entities.symbol.getD .none) (other.symbol.getD .none)
    rw [← canonicalize_tokens first second,← canonicalize_tokens third fourth] at outcomes
    rw [outcomes]
    have ran : ∀ canonical, canonicalizeSymbolEntities entities = .ok canonical ↔
        Accepted (stripMarkerPrefix symbolTokens) (stripMarkerPrefix symbolsTokens) ∧
          canonical = meaning (stripMarkerPrefix symbolTokens) (stripMarkerPrefix symbolsTokens) := by
      intro canonical
      rw [canonicalize_tokens first second,resolve_ok]
    constructor
    · intro ⟨stable,agree⟩ _ _ _ _ one two three four
      rw [first] at one
      rw [second] at two
      rw [third] at three
      rw [fourth] at four
      cases one
      cases two
      cases three
      cases four
      intro either
      refine ⟨?_,agree either⟩
      intro accepted
      exact (applied_again first second accepted).mp (stable _ ((ran _).mpr ⟨accepted,rfl⟩)).2
    · intro condition
      have agree := condition _ _ _ _ first second third fourth
      refine ⟨?_,fun either => (agree either).2⟩
      intro canonical returned
      obtain ⟨accepted,rfl⟩ := (ran canonical).mp returned
      exact ⟨meaning_sound accepted,(applied_again first second accepted).mpr ((agree (.inl accepted)).1 accepted)⟩
  · obtain ⟨failure,raised⟩ := refused_without_tokens read
    have unread : ¬ ∃ otherTokens othersTokens,
        coerceTokens (other.symbol.getD .none) = .ok otherTokens ∧ coerceTokens (other.symbols.getD .none) = .ok othersTokens := by
      rintro ⟨otherTokens,othersTokens,third,fourth⟩
      obtain ⟨symbolTokens,first,_⟩ := map_same (recased_tokens recased.1.symm) third
      obtain ⟨symbolsTokens,second,_⟩ := map_same (recased_tokens recased.2.symm) fourth
      exact read ⟨symbolTokens,symbolsTokens,first,second⟩
    obtain ⟨another,refused⟩ := refused_without_tokens unread
    rw [raised,refused]
    constructor
    · intro _ symbolTokens symbolsTokens _ _ first second
      exact absurd ⟨symbolTokens,symbolsTokens,first,second⟩ read
    · intro _
      exact ⟨fun _ returned => (nomatch returned),rfl⟩

-- A text such as "co phieu FPT", its marker kept.
def marked (marker : Text) : Entities := ⟨none,some (.list [.str marker,.str ['F','P','T']])⟩

-- A marker in small letters is taken for a symbol.
theorem small_marker_kept : ¬ ∀ entities other, Recased entities other → Canonicalized entities other := by
  intro claimed
  have pair := (claimed (marked ['c','p']) (marked ['C','P']) ⟨rfl,rfl⟩).2
  revert pair
  decide

theorem canonical_stable_sample : Canonicalized ⟨some (.str ['f','p','t']),none⟩ ⟨some (.str ['F','P','T']),none⟩ := by
  refine (canonical_stable ⟨some (.str ['f','p','t']),none⟩ ⟨some (.str ['F','P','T']),none⟩ ⟨rfl,rfl⟩).mpr ?_
  intro symbolTokens symbolsTokens otherTokens othersTokens first second third fourth
  have one : coerceTokens (.str ['f','p','t']) = .ok [['f','p','t']] := by rfl
  have two : coerceTokens (.str ['F','P','T']) = .ok [['F','P','T']] := by rfl
  cases one.symm.trans first
  cases two.symm.trans third
  cases second
  cases fourth
  intro _
  exact ⟨fun _ => trivial,Iff.rfl,.inl Iff.rfl⟩

end OpenStock.Assistant.Symbols
