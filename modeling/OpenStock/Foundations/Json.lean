import OpenStock.Foundations.Text

namespace OpenStock

-- What `json.loads` builds. A number with a fraction, an exponent or one of the
-- non-finite constants keeps its lexeme: nothing here computes with it.
inductive Json where
  | null
  | bool (value : Bool)
  | int (value : Int)
  | float (lexeme : Text)
  | str (value : Text)
  | arr (items : List Json)
  | obj (members : List (Text × Json))

end OpenStock

namespace OpenStock.Json
open Text

mutual
def same : Json → Json → Bool
  | .null,.null => true
  | .bool left,.bool right => left = right
  | .int left,.int right => left = right
  | .float left,.float right => left = right
  | .str left,.str right => left = right
  | .arr left,.arr right => sameItems left right
  | .obj left,.obj right => sameMembers left right
  | _,_ => false
def sameItems : List Json → List Json → Bool
  | [],[] => true
  | left :: lefts,right :: rights => same left right && sameItems lefts rights
  | _,_ => false
def sameMembers : List (Text × Json) → List (Text × Json) → Bool
  | [],[] => true
  | (key,left) :: lefts,(other,right) :: rights => key = other && same left right && sameMembers lefts rights
  | _,_ => false
end

mutual
theorem same_iff : ∀ left right : Json, same left right = true ↔ left = right
  | .null,right | .bool _,right | .int _,right | .float _,right | .str _,right => by cases right <;> simp [same]
  | .arr left,right => by
    cases right with
    | arr items => simp [same,sameItems_iff left items]
    | _ => simp [same]
  | .obj left,right => by
    cases right with
    | obj members => simp [same,sameMembers_iff left members]
    | _ => simp [same]
theorem sameItems_iff : ∀ lefts rights : List Json, sameItems lefts rights = true ↔ lefts = rights
  | [],[] | [],_ :: _ | _ :: _,[] => by simp [sameItems]
  | left :: lefts,right :: rights => by simp [sameItems,same_iff left right,sameItems_iff lefts rights]
theorem sameMembers_iff : ∀ lefts rights : List (Text × Json), sameMembers lefts rights = true ↔ lefts = rights
  | [],[] | [],_ :: _ | _ :: _,[] => by simp [sameMembers]
  | (key,left) :: lefts,(other,right) :: rights => by
    simp [sameMembers,same_iff left right,sameMembers_iff lefts rights]
end

instance : DecidableEq Json := fun left right => decidable_of_iff _ (same_iff left right)

-- Member lookup of a decoded dict.
def lookup (members : List (Text × Json)) (key : Text) : Option Json :=
  (members.find? (fun member => member.1 == key)).map Prod.snd

/- Encoding: `json.dumps(value, separators=(",", ":"))` with `ensure_ascii`. -/

def hex4 (unit : Nat) : Text :=
  [Nat.digitChar (unit / 4096 % 16),Nat.digitChar (unit / 256 % 16),
    Nat.digitChar (unit / 16 % 16),Nat.digitChar (unit % 16)]

def shortEscapes : List (Char × Char) :=
  [('"','"'),('\\','\\'),('\n','n'),('\r','r'),('\t','t'),(Char.ofNat 12,'f'),(Char.ofNat 8,'b')]

def escapeChar (c : Char) : Text :=
  match shortEscapes.lookup c with
  | some tag => ['\\',tag]
  | none =>
    if 32 ≤ c.toNat ∧ c.toNat ≤ 126 then [c]
    else if c.toNat < 0x10000 then '\\' :: 'u' :: hex4 c.toNat
    else
      let offset := c.toNat - 0x10000
      '\\' :: 'u' :: (hex4 (0xD800 + offset / 0x400) ++ '\\' :: 'u' :: hex4 (0xDC00 + offset % 0x400))

def renderString (value : Text) : Text := '"' :: (value.flatMap escapeChar ++ ['"'])

def renderInt (value : Int) : Text :=
  if value < 0 then '-' :: Nat.toDigits 10 value.natAbs else Nat.toDigits 10 value.natAbs

mutual
def render : Json → Text
  | .null => ['n','u','l','l']
  | .bool true => ['t','r','u','e']
  | .bool false => ['f','a','l','s','e']
  | .int value => renderInt value
  | .float lexeme => lexeme
  | .str value => renderString value
  | .arr [] => ['[',']']
  | .arr (item :: items) => '[' :: (render item ++ renderItems items)
  | .obj [] => ['{','}']
  | .obj ((key,value) :: members) =>
      '{' :: (renderString key ++ ':' :: (render value ++ renderMembers members))
def renderItems : List Json → Text
  | [] => [']']
  | item :: items => ',' :: (render item ++ renderItems items)
def renderMembers : List (Text × Json) → Text
  | [] => ['}']
  | (key,value) :: members =>
      ',' :: (renderString key ++ ':' :: (render value ++ renderMembers members))
end

-- `sort_keys=True`: strings compare by code point.
def keyBefore (left right : Text × Json) : Prop := left.1 ≤ right.1

instance : DecidableRel keyBefore := fun left right => inferInstanceAs (Decidable (left.1 ≤ right.1))

mutual
def sortKeys : Json → Json
  | .arr items => .arr (sortItems items)
  | .obj members => .obj ((sortMembers members).insertionSort keyBefore)
  | value => value
def sortItems : List Json → List Json
  | [] => []
  | item :: items => sortKeys item :: sortItems items
def sortMembers : List (Text × Json) → List (Text × Json)
  | [] => []
  | (key,value) :: members => (key,sortKeys value) :: sortMembers members
end

def dumps (value : Json) : Text := render (sortKeys value)

/- Decoding: `json.loads`, with its `object_pairs_hook`. -/

def isBlank (c : Char) : Bool := c == ' ' || c == '\t' || c == '\n' || c == '\r'

def skipSpace (text : Text) : Text := text.dropWhile isBlank

def hexValue (c : Char) : Option Nat :=
  if c.isDigit then some (c.toNat - 48)
  else if 'a' ≤ c ∧ c ≤ 'f' then some (c.toNat - 87)
  else if 'A' ≤ c ∧ c ≤ 'F' then some (c.toNat - 55)
  else none

def readHex4 : Text → Option (Nat × Text)
  | a :: b :: c :: d :: rest => do
    let a ← hexValue a
    let b ← hexValue b
    let c ← hexValue c
    let d ← hexValue d
    some (a * 4096 + b * 256 + c * 16 + d,rest)
  | _ => none

def shortEscape : Char → Option Char
  | '"' => some '"' | '\\' => some '\\' | '/' => some '/'
  | 'b' => some (Char.ofNat 8) | 'f' => some (Char.ofNat 12)
  | 'n' => some '\n' | 'r' => some '\r' | 't' => some '\t'
  | _ => none

-- A lone surrogate is refused here. The decoder admits it as a character that
-- no string of this model can hold; every reader below refuses such a text.
def readUnicode (text : Text) : Option (Char × Text) := do
  let (unit,rest) ← readHex4 text
  if unit < 0xD800 ∨ 0xE000 ≤ unit then some (Char.ofNat unit,rest)
  else if unit < 0xDC00 then
    match rest with
    | '\\' :: 'u' :: rest => do
      let (low,rest) ← readHex4 rest
      if 0xDC00 ≤ low ∧ low < 0xE000 then
        some (Char.ofNat (0x10000 + (unit - 0xD800) * 0x400 + (low - 0xDC00)),rest)
      else none
    | _ => none
  else none

-- One character of a string body; control characters are invalid (strict mode).
def readChar : Text → Option (Char × Text)
  | [] => none
  | '\\' :: text =>
    match text with
    | [] => none
    | 'u' :: rest => readUnicode rest
    | tag :: rest => (shortEscape tag).map (fun c => (c,rest))
  | c :: rest => if c.toNat < 32 then none else some (c,rest)

def parseString : Nat → Text → Option (Text × Text)
  | 0,_ => none
  | _ + 1,[] => none
  | fuel + 1,head :: tail =>
    if head = '"' then some ([],tail) else do
      let (c,rest) ← readChar (head :: tail)
      let (value,rest) ← parseString fuel rest
      some (c :: value,rest)

def readFraction : Text → Text × Text
  | '.' :: c :: rest =>
    if c.isDigit then ('.' :: c :: rest.takeWhile Char.isDigit,rest.dropWhile Char.isDigit) else ([],'.' :: c :: rest)
  | text => ([],text)

def readExponent : Text → Text × Text
  | mark :: sign :: c :: rest =>
    if mark = 'e' ∨ mark = 'E' then
      if sign.isDigit then
        (mark :: (sign :: c :: rest).takeWhile Char.isDigit,(sign :: c :: rest).dropWhile Char.isDigit)
      else if (sign = '+' ∨ sign = '-') ∧ c.isDigit then
        (mark :: sign :: c :: rest.takeWhile Char.isDigit,rest.dropWhile Char.isDigit)
      else ([],mark :: sign :: c :: rest)
    else ([],mark :: sign :: c :: rest)
  | [mark,c] => if (mark = 'e' ∨ mark = 'E') ∧ c.isDigit then ([mark,c],[]) else ([],[mark,c])
  | text => ([],text)

def finishNumber (negative : Bool) (digits rest : Text) : Json × Text :=
  let (fraction,rest) := readFraction rest
  let (exponent,rest) := readExponent rest
  if fraction = [] ∧ exponent = [] then
    let magnitude : Int := Nat.ofDigitChars 10 digits 0
    (.int (if negative then -magnitude else magnitude),rest)
  else (.float ((if negative then ['-'] else []) ++ digits ++ fraction ++ exponent),rest)

def parseDigits (negative : Bool) : Text → Option (Json × Text)
  | [] => none
  | c :: rest =>
    if c = '0' then some (finishNumber negative ['0'] rest)
    else if c.isDigit then
      some (finishNumber negative (c :: rest.takeWhile Char.isDigit) (rest.dropWhile Char.isDigit))
    else none

def literal (word text : Text) : Option Text :=
  if word.isPrefixOf text then some (text.drop word.length) else none

def constants : List (Text × Json) :=
  [(['n','u','l','l'],.null),(['t','r','u','e'],.bool true),(['f','a','l','s','e'],.bool false),
    (['N','a','N'],.float ['N','a','N']),
    (['I','n','f','i','n','i','t','y'],.float ['I','n','f','i','n','i','t','y']),
    (['-','I','n','f','i','n','i','t','y'],.float ['-','I','n','f','i','n','i','t','y'])]

def parseConstant (text : Text) : Option (Json × Text) :=
  constants.findSome? (fun entry => (literal entry.1 text).map (fun rest => (entry.2,rest)))

def parseNumber : Text → Option (Json × Text)
  | '-' :: rest => parseDigits true rest
  | text => parseDigits false text

def parseScalar (text : Text) : Option (Json × Text) :=
  (parseConstant text).orElse (fun _ => parseNumber text)

section decoder
variable (hook : List (Text × Json) → Option (List (Text × Json)))

mutual
def parseValue : Nat → Text → Option (Json × Text)
  | 0,_ => none
  | _ + 1,[] => none
  | fuel + 1,head :: tail =>
    if head = '"' then
      (parseString (tail.length + 1) tail).map (fun (value,rest) => (.str value,rest))
    else if head = '[' then
      match skipSpace tail with
      | ']' :: rest => some (.arr [],rest)
      | text => (parseItems fuel text).map (fun (items,rest) => (.arr items,rest))
    else if head = '{' then
      match skipSpace tail with
      | '}' :: rest => (hook []).map (fun members => (.obj members,rest))
      | text => do
        let (pairs,rest) ← parseMembers fuel text
        let members ← hook pairs
        some (.obj members,rest)
    else parseScalar (head :: tail)
def parseItems : Nat → Text → Option (List Json × Text)
  | 0,_ => none
  | fuel + 1,text => do
    let (item,rest) ← parseValue fuel text
    match skipSpace rest with
    | ',' :: rest => do
      let (items,rest) ← parseItems fuel (skipSpace rest)
      some (item :: items,rest)
    | ']' :: rest => some ([item],rest)
    | _ => none
def parseMembers : Nat → Text → Option (List (Text × Json) × Text)
  | 0,_ => none
  | fuel + 1,'"' :: text => do
    let (key,rest) ← parseString (text.length + 1) text
    match skipSpace rest with
    | ':' :: rest => do
      let (value,rest) ← parseValue fuel (skipSpace rest)
      match skipSpace rest with
      | ',' :: rest => do
        let (members,rest) ← parseMembers fuel (skipSpace rest)
        some ((key,value) :: members,rest)
      | '}' :: rest => some ([(key,value)],rest)
      | _ => none
    | _ => none
  | _,_ => none
end

def loads (text : Text) : Option Json := do
  let (value,rest) ← parseValue hook (text.length + 1) (skipSpace text)
  if skipSpace rest = [] then some value else none

end decoder
end OpenStock.Json
