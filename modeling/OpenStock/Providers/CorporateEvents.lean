import OpenStock.CorporateActions.Reconciliation
import OpenStock.Foundations.JsonLayout
import OpenStock.Ranking.Metrics

namespace OpenStock.Providers.Events
open Text Calendar CorporateActions Queue

-- A dict built from pairs: a later value replaces an earlier one in its place.
def dictOf (pairs : List (Text × Json)) : List (Text × Json) := pairs.foldl (Rows.upsert Prod.fst) []

def isScalar : Json → Bool
  | .arr _ => false
  | .obj _ => false
  | _ => true

-- A record of a provider's response: keys and JSON scalars.
structure ProviderEvent where
  members : List (Text × Json)
  distinct : (members.map Prod.fst).Nodup
  scalars : ∀ member ∈ members, isScalar member.2 = true ∧ Json.Printable member.2

-- What is read by `float`, float division, `repr(float(n))` and `pd.to_datetime`.
class Reading where
  ofInt : Int → Text
  ofInt_lexeme : ∀ number, Json.isLexeme (ofInt number) = true
  readFloat : Text → Option Amount
  percent : Amount → Amount
  quotient : Amount → Amount → Amount
  readDate : Json → Option Date

/- Column names. -/

-- `re.sub(r"([a-z0-9])([A-Z])", r"\1_\2", text)`
def separateWords : Text → Text
  | a :: b :: rest =>
    if (a.isLower || a.isDigit) && b.isUpper then a :: '_' :: separateWords (b :: rest) else a :: separateWords (b :: rest)
  | text => text

-- `re.sub(r"[^a-zA-Z0-9]+", "_", text)`; the flag says that a run has begun.
def joinWords : Bool → Text → Text
  | _,[] => []
  | gap,c :: rest =>
    if c.isAlphanum then c :: joinWords false rest
    else if gap then joinWords true rest else '_' :: joinWords true rest

def stripMarks (text : Text) : Text :=
  ((text.dropWhile (fun c => c == '_')).reverse.dropWhile (fun c => c == '_')).reverse

def snakeCase (value : Text) : Text := lower (stripMarks (joinWords false (separateWords (strip value))))

/- The readers of a record. -/

def isNaN (value : Json) : Bool := match value with
  | .float lexeme => decide (lexeme = "NaN".toList)
  | _ => false

def jsonSafe (value : Json) : Json := if isNaN value then .null else value

def truthy : Json → Bool
  | .null => false
  | .bool value => value
  | .int value => decide (value ≠ 0)
  | .float lexeme => decide (lexeme ∉ ["0.0".toList,"-0.0".toList])
  | .str value => decide (value ≠ [])
  | .arr items => !items.isEmpty
  | .obj members => !members.isEmpty

-- `str(value)` of a scalar.
def strOf : Json → Text
  | .null => "None".toList
  | .bool true => "True".toList
  | .bool false => "False".toList
  | .int value => Json.renderInt value
  | .float lexeme =>
    if lexeme = "Infinity".toList then "inf".toList
    else if lexeme = "-Infinity".toList then "-inf".toList
    else lexeme
  | .str value => value
  | .arr _ => []
  | .obj _ => []

def first (record : List (Text × Json)) (keys : List String) : Option Json :=
  keys.findSome? (fun key => (Json.lookup record key.toList).filter (fun value => value ≠ .null ∧ isNaN value = false))

-- `str(_first(record, *keys, default="") or "")`
def stated (record : List (Text × Json)) (keys : List String) : Text :=
  match first record keys with
  | some value => if truthy value then strOf value else []
  | none => []

section reading
variable [Reading]

def dateValue (record : List (Text × Json)) (keys : List String) : Option Date :=
  match first record keys with
  | none => none
  | some value => if value = .str [] then none else Reading.readDate value

def floatValue (record : List (Text × Json)) (keys : List String) : Option Amount :=
  match first record keys with
  | none => none
  | some value => if value = .str [] then none else Reading.readFloat ((strOf value).filter (fun c => c ≠ ','))

-- `\d+(?:[.,]\d+)?` at the head of a text. A shorter match never helps: what
-- follows in either pattern is no digit.
def readNumber (text : Text) : Option (Text × Text) :=
  match text.takeWhile Char.isDigit,text.dropWhile Char.isDigit with
  | [],_ => none
  | digits,mark :: rest =>
    if (mark = '.' ∨ mark = ',') ∧ rest.takeWhile Char.isDigit ≠ [] then
      some (digits ++ '.' :: rest.takeWhile Char.isDigit,rest.dropWhile Char.isDigit)
    else some (digits,mark :: rest)
  | digits,[] => some (digits,[])

-- `(-?\d+(?:[.,]\d+)?)\s*%` at the head of a text.
def percentAt (text : Text) : Option Text :=
  let unsigned := match text with
    | '-' :: rest => rest
    | _ => text
  match readNumber unsigned with
  | none => none
  | some (number,rest) =>
    if (rest.dropWhile isSpace).head? = some '%' then
      some (if text.head? = some '-' then '-' :: number else number)
    else none

-- `(\d+(?:[.,]\d+)?)\s*[:/]\s*(\d+(?:[.,]\d+)?)` at the head of a text.
def proportionAt (text : Text) : Option (Text × Text) :=
  match readNumber text with
  | none => none
  | some (left,rest) =>
    match rest.dropWhile isSpace with
    | [] => none
    | mark :: rest =>
      if mark = ':' ∨ mark = '/' then (readNumber (rest.dropWhile isSpace)).map (fun right => (left,right.1)) else none

-- `re.search`: the leftmost place where the pattern matches.
def search (at' : Text → Option α) (text : Text) : Option α := text.tails.findSome? at'

def isZero (amount : Amount) : Bool := decide (amount.value = 0)

def ratioValue (record : List (Text × Json)) (keys : List String) : Option Amount :=
  match first record keys with
  | none => none
  | some (.str []) => none
  | some (.str text) =>
    match search percentAt text,search proportionAt text with
    | some number,_ => (Reading.readFloat number).map Reading.percent
    | none,some (left,right) =>
      match Reading.readFloat left,Reading.readFloat right with
      | some left,some right => if isZero left then none else some (Reading.quotient right left)
      | _,_ => none
    | none,none => floatValue record keys
  | some _ => floatValue record keys

/- Classification. -/

-- `str.lower` on the Latin blocks that Vietnamese is written with.
def lowerLetter (c : Char) : Text :=
  let code := c.toNat
  let even := decide (code % 2 = 0)
  if 0xC0 ≤ code ∧ code ≤ 0xDE ∧ code ≠ 0xD7 then [Char.ofNat (code + 32)]
  else if (0x100 ≤ code ∧ code ≤ 0x137 ∧ code ≠ 0x130) ∨ (0x14A ≤ code ∧ code ≤ 0x177) ∨
      (0x1E00 ≤ code ∧ code ≤ 0x1E95) ∨ (0x1EA0 ≤ code ∧ code ≤ 0x1EFF) then
    [if even then Char.ofNat (code + 1) else c]
  else if (0x139 ≤ code ∧ code ≤ 0x148) ∨ (0x179 ≤ code ∧ code ≤ 0x17E) then [if even then c else Char.ofNat (code + 1)]
  else if code = 0x1A0 ∨ code = 0x1AF then [Char.ofNat (code + 1)]
  else lowerPoint c

def mentions (text : Text) (tokens : List String) : Bool := tokens.any (fun token => decide (token.toList <:+: text))

-- `str(value or "")`
def shown (value : Option Json) : Text :=
  match value with
  | some value => if truthy value then strOf value else []
  | none => []

def classify (eventCode title : Text) (record : List (Text × Json)) : String :=
  let parts := [eventCode,title] ++
    ["event_name_en","event_name_vi","action_type_en","action_type_vi"].map (fun key => shown (Json.lookup record key.toList))
  let text := ([' '].intercalate parts).flatMap lowerLetter
  let dividend := decide (eventCode = "DIV".toList) || mentions text ["dividend","cổ tức","co tuc"]
  let cash := (floatValue record ["value_per_share","cash_amount","dividend_value"]).isSome ||
    mentions text ["cash","tiền mặt","tien mat"]
  if mentions text ["delist","hủy niêm yết","huy niem yet"] then "DELISTING"
  else if mentions text ["symbol change","đổi mã","doi ma"] then "SYMBOL_CHANGE"
  else if mentions text ["consolidation","reverse split","gộp cổ phiếu","gop co phieu"] then "CONSOLIDATION"
  else if mentions text ["stock split","split","tách cổ phiếu","tach co phieu"] then "SPLIT"
  else if mentions text ["rights issue","right issue","quyền mua","quyen mua"] then "RIGHTS_ISSUE"
  else if mentions text ["bonus issue","cổ phiếu thưởng","co phieu thuong"] then "STOCK_BONUS"
  else if mentions text ["stock dividend","cổ tức bằng cổ phiếu","co tuc bang co phieu"] then "STOCK_DIVIDEND"
  else if dividend && cash then "CASH_DIVIDEND"
  else if dividend && (ratioValue record ["exercise_ratio","ratio","stock_ratio"]).isSome then "STOCK_DIVIDEND"
  else if mentions text ["reference price","giá tham chiếu","gia tham chieu"] then "REFERENCE_PRICE_ADJUSTMENT"
  else if decide (eventCode = "ISS".toList) || mentions text ["share issue","phát hành","phat hanh","additional listing"] then
    "ADDITIONAL_LISTING"
  else "OTHER"

/- One record. -/

-- The columns that ingestion reads, and the others.
structure NormalizedAction where
  record : ActionRecord
  title : Option Text
  provider : Text
  sourcePayloadJson : Text
  qualityStatus : String

def contractVersion : Text := "corporate-actions-v1".toList

variable [Platform]

def payloadText (layout : Json.Layout) (raw : List (Text × Json)) : Text := Json.write layout 0 (Json.sortKeys (.obj raw))

def eventId (raw : List (Text × Json)) : Text :=
  let given := strip (stated raw ["id","event_id","eventid","news_id"])
  if given = [] then (Platform.hexdigest (payloadText Json.spacedPlain raw)).take 24 else given

def eventSymbol (raw : List (Text × Json)) (defaultSymbol : Text) : Text :=
  upper (match first raw ["ticker","symbol"] with
    | some value => if truthy value then strOf value else defaultSymbol
    | none => defaultSymbol)

def orNone (text : Text) : Option Text := if text = [] then none else some text

def normalizeRaw (raw : List (Text × Json)) (provider defaultSymbol : Text) : NormalizedAction :=
  let symbol := eventSymbol raw defaultSymbol
  let providerEventId := eventId raw
  let title := strip (stated raw ["event_title_en","event_title_vi","title","event_name_en","event_name_vi"])
  let actionType := classify (upper (stated raw ["event_code","eventcode","category"])) title raw
  let cashAmount := floatValue raw ["value_per_share","cash_amount","dividend_value"]
  let subscriptionPrice := floatValue raw ["subscription_price","issue_price","price"]
  let payloadJson := payloadText Json.compactPlain raw
  { record := {
      providerEventId := some providerEventId
      symbol := some symbol
      actionType := some actionType.toList
      announcedAt := dateValue raw ["public_date","published_at","display_date1","create_date"]
      exDate := dateValue raw ["exright_date","ex_date","exdate"]
      recordDate := dateValue raw ["record_date","recorddate"]
      effectiveDate := dateValue raw ["effective_date","payout_date","listing_date","issue_date","display_date2"]
      cashAmount
      ratio := ratioValue raw ["exercise_ratio","ratio","stock_ratio"]
      ratioText := orNone (strip (stated raw ["ratio_text","action_type_en","action_type_vi"]))
      subscriptionPrice
      referencePrice := floatValue raw ["reference_price","ref_price"]
      currency := if cashAmount.isSome || subscriptionPrice.isSome then some "VND".toList else none
      sourceReference := some (lower provider ++ "://company/".toList ++ symbol ++ "/events/".toList ++ providerEventId)
      sourceVersion := some contractVersion
      contentHash := some (Platform.hexdigest payloadJson)}
    title := orNone title
    provider
    sourcePayloadJson := payloadJson
    qualityStatus := if actionType = "OTHER" then "UNCLASSIFIED" else "NORMALIZED" }

def normalizeRecord (record : List (Text × Json)) (provider defaultSymbol : Text) : NormalizedAction :=
  normalizeRaw (dictOf (record.map (fun member => (lower (strip member.1),jsonSafe member.2)))) provider defaultSymbol

end reading
end OpenStock.Providers.Events
