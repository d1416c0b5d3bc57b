import OpenStock.Foundations.TextLines
import OpenStock.SymbolMemory.Projection

namespace OpenStock.SymbolMemory.Cards
open Text Replacement Substrings TextLines

/- The Markdown card of a symbol: front matter, a managed region and a user region. -/

def managedStart : Text := "<!-- openstock:managed:start current-snapshot -->".toList
def managedEnd : Text := "<!-- openstock:managed:end current-snapshot -->".toList
def userStart : Text := "<!-- openstock:user:start -->".toList
def userEnd : Text := "<!-- openstock:user:end -->".toList

def reservedRegionMarkers : List Text := [managedStart,managedEnd,userStart,userEnd]

inductive CardError where
  | symbolPath
  | content
  | frontmatterMissing
  | frontmatterOpen
  | frontmatterMalformed
  | schema
  | markers
  | boundary
  | managedHash
  | documentHash

-- What `_render_card` writes under the front matter.
def snapshotHeading (symbol : Text) : Text := "\n# ".toList ++ (symbol ++ "\n\n## Current snapshot\n\n".toList)

def notesHeading : Text := "\n\n## User notes\n\n".toList

def cardBody (symbol managed user : Text) : Text :=
  snapshotHeading symbol ++ (managedStart ++ '\n' :: (managed ++ (managedEnd ++
    (notesHeading ++ (userStart ++ '\n' :: (user ++ (userEnd ++ ['\n'])))))))

def fieldLine (entry : Text × Text) : Text := entry.1 ++ (": ".toList ++ entry.2)

def hashField : Text := "document_hash: \"".toList

-- `provisional.replace('document_hash: ""', ...)`: every occurrence.
def emptyField : Text := hashField ++ ['"']

def filledField (documentHash : Text) : Text := hashField ++ (documentHash ++ ['"'])

theorem emptyField_present : emptyField ≠ [] := List.append_ne_nil_of_right_ne_nil hashField (List.cons_ne_nil _ _)

theorem filledField_present (documentHash : Text) : filledField documentHash ≠ [] :=
  List.append_ne_nil_of_right_ne_nil hashField (List.append_ne_nil_of_right_ne_nil documentHash (List.cons_ne_nil _ _))

def fillIn (documentHash : Text) : Pattern Char Unit :=
  literal emptyField (filledField documentHash) emptyField_present (filledField_present documentHash)

def validateSymbolCardContent (content : Text) : Except CardError Unit :=
  if ∃ marker ∈ reservedRegionMarkers, marker <:+: content then .error .content else .ok ()

-- What a card uses of hashlib, and of datetime for its time of writing.
class Platform where
  hexdigest : Text → Text
  Stamp : Type
  isoformat : Stamp → Text
  fromisoformat : Text → Option Stamp
  hexPlain : ∀ text, ∀ c ∈ hexdigest text, c.isAlphanum = true
  stampPlain : ∀ stamp, ∀ c ∈ isoformat stamp, c.isAlphanum = true ∨ c ∈ ['-',':','.','+']
  stampRead : ∀ stamp, fromisoformat (isoformat stamp) = some stamp

variable [Platform]

def hash (content : Text) : Text := "sha256:".toList ++ Platform.hexdigest content

/- Writing. -/

structure Front where
  symbol : Text
  generation : Int
  stamp : Platform.Stamp
  managedHash : Text

def Front.entries (front : Front) : List (Text × Text) :=
  [("schema_version".toList,"1".toList),("document_id".toList,"symbol:".toList ++ front.symbol),
    ("entity_type".toList,"symbol".toList),("entity_id".toList,front.symbol),
    ("generation".toList,Json.renderInt front.generation),("updated_at".toList,Platform.isoformat front.stamp),
    ("managed_hash".toList,'"' :: (front.managedHash ++ ['"']))]

-- The document of `_render_card`, with a document hash filled in.
def cardText (front : Front) (documentHash managed user : Text) : Text :=
  "---\n".toList ++ (unlines (front.entries.map fieldLine) ++ (hashField ++ (documentHash ++ ("\"\n---\n".toList ++
    cardBody front.symbol managed user))))

-- The content, the managed hash and the document hash.
def renderCard (symbol : Text) (generation : Int) (managed user : Text) (stamp : Platform.Stamp) :
    Except CardError (Text × Text × Text) := do
  validateSymbolCardContent managed
  validateSymbolCardContent user
  let front : Front := ⟨symbol,generation,stamp,hash managed⟩
  let provisional := cardText front [] managed user
  let documentHash := hash provisional
  return (replaceAll (fillIn documentHash) provisional,front.managedHash,documentHash)

/- Reading. -/

structure ParsedSymbolCard where
  symbol : Text
  schemaVersion : Int
  generation : Int
  managedHash : Text
  documentHash : Text
  managedContent : Text
  userContent : Text
  updatedAt : Platform.Stamp

section texts
omit [Platform]

def splitFrontmatter (content : Text) : Except CardError (Text × Text) :=
  if "---\n".toList <+: content then
    match cut "\n---\n".toList (content.drop 4) with
    | none => .error .frontmatterOpen
    | some parts => .ok parts
  else .error .frontmatterMissing

def stripQuotes (text : Text) : Text := ((text.dropWhile (· == '"')).reverse.dropWhile (· == '"')).reverse

def parseLines (values : List (Text × Text)) : List Text → Except CardError (List (Text × Text))
  | [] => .ok values
  | line :: lines =>
    match cut [':'] line with
    | none => .error .frontmatterMalformed
    | some (key,value) =>
      if key = [] ∨ (values.lookup key).isSome then .error .frontmatterMalformed
      else parseLines (values ++ [(key,stripQuotes (strip value))]) lines

def parseFrontmatter (frontmatter : Text) : Except CardError (List (Text × Text)) := parseLines [] (splitlines frontmatter)

-- `int(text)`, on ASCII digits.
def readDecimal (text : Text) : Option Nat :=
  let groups := text.splitOn '_'
  if groups.all (fun group => !group.isEmpty && group.all Char.isDigit) then some (Nat.ofDigitChars 10 groups.flatten 0) else none

def readInt (text : Text) : Option Int :=
  match strip text with
  | '-' :: digits => (readDecimal digits).map (fun value => -Int.ofNat value)
  | '+' :: digits => (readDecimal digits).map Int.ofNat
  | digits => (readDecimal digits).map Int.ofNat

def extractRegion (content start finish : Text) : Except CardError Text :=
  if occurrences start content ≠ 1 ∨ occurrences finish content ≠ 1 then .error .markers
  else
    match cut start content,cut finish content with
    | some (before,_),some (upTo,_) =>
      if upTo.length < before.length then .error .markers
      else
        let regionStart := before.length + start.length
        if (content.drop regionStart).head? ≠ some '\n' then .error .boundary
        else .ok ((content.take upTo.length).drop (regionStart + 1))
    | _,_ => .error .markers

-- `_DOCUMENT_HASH_PATTERN.sub(r"\1\2", content, count=1)`.
def withoutDocumentHash (content : Text) : Text :=
  match cut hashField content with
  | none => content
  | some (before,behind) => if '"' ∈ behind then before ++ (hashField ++ behind.dropWhile (· ≠ '"')) else content

end texts

def documentHashForContent (content : Text) : Text := hash (withoutDocumentHash content)

structure FrontValues where
  symbol : Text
  schemaVersion : Int
  generation : Int
  updatedAt : Platform.Stamp
  managedHash : Text
  documentHash : Text

def readValues (values : List (Text × Text)) : Option FrontValues := do
  let symbol ← (values.lookup "entity_id".toList).bind normalizeSymbol
  let schemaVersion ← (values.lookup "schema_version".toList).bind readInt
  let generation ← (values.lookup "generation".toList).bind readInt
  let updatedAt ← (values.lookup "updated_at".toList).bind Platform.fromisoformat
  let managedHash ← values.lookup "managed_hash".toList
  let documentHash ← values.lookup "document_hash".toList
  return ⟨symbol,schemaVersion,generation,updatedAt,managedHash,documentHash⟩

def parseSymbolCard (content : Text) : Except CardError ParsedSymbolCard := do
  let (frontmatter,body) ← splitFrontmatter content
  let values ← parseFrontmatter frontmatter
  match readValues values with
  | none => throw .frontmatterMalformed
  | some front =>
    if values.lookup "entity_type".toList ≠ some "symbol".toList ∨ front.schemaVersion ≠ 1 then throw .schema
    else
      let managed ← extractRegion body managedStart managedEnd
      let user ← extractRegion body userStart userEnd
      if hash managed ≠ front.managedHash then throw .managedHash
      else if documentHashForContent content ≠ front.documentHash then throw .documentHash
      else return ⟨front.symbol,front.schemaVersion,front.generation,front.managedHash,front.documentHash,managed,user,front.updatedAt⟩

/- The card file: its text, or none. -/

-- `path.read_text(encoding="utf-8")`.
def readText (file : Text) : Text := universalNewlines file

def loadExisting (file : Option Text) : Except CardError (Option ParsedSymbolCard) :=
  match file with
  | none => .ok none
  | some text => (parseSymbolCard (readText text)).map some

structure MemoryDocument where
  symbol : Text
  path : Text
  schemaVersion : Int
  generation : Int
  managedHash : Text
  documentHash : Text
  tokenEstimate : Nat
  lastCompactedAt : Option Platform.Stamp
  updatedAt : Platform.Stamp

omit [Platform] in
def estimateTokens (content : Text) : Nat := (content.length + 3) / 4

def preservedUserContent (previous : Option ParsedSymbolCard) (userContent : Option Text) : Text :=
  match userContent,previous with
  | none,some card => card.userContent
  | _,_ => userContent.getD []

-- The text to write and the row for it; the card's path is not a symlink.
def writeSymbolCard (file : Option Text) (symbol managed : Text) (userContent : Option Text) (stamp : Platform.Stamp) :
    Except CardError (Text × MemoryDocument) := do
  match normalizeSymbol symbol with
  | none => throw .symbolPath
  | some canonical =>
    let previous ← loadExisting file
    let generation := match previous with
      | none => 1
      | some card => card.generation + 1
    let (content,managedHash,documentHash) ← renderCard canonical generation managed (preservedUserContent previous userContent) stamp
    return (content,⟨canonical,"knowledge/symbols/".toList ++ (canonical ++ ".md".toList),1,generation,managedHash,documentHash,
      estimateTokens managed,none,stamp⟩)

end OpenStock.SymbolMemory.Cards
