import OpenStock.Foundations.Text

namespace OpenStock.Ingestion
open Text

/- `ingestion/symbol_taxonomy.py`: provider symbol records and their normal form. -/

-- A record is a mapping, whose values are kept as their `str`; `null` has none.
-- Anything else in its place is refused.
inductive SourceRecord where
  | object (fields : List (Text × Option Text))
  | other

structure SymbolTaxonomy where
  symbol : Text
  exchange : Option Text
  name : Option Text
  securityType : Text
  lifecycleStatus : Text
  listingDate : Option Text
  delistingDate : Option Text
  sectorCode : Option Text
  sectorName : Option Text
  industryCode : Option Text
  industryName : Option Text
  taxonomyName : Text
  taxonomyVersion : Text
  classificationSource : Text
  effectiveFrom : Option Text
deriving DecidableEq

def SymbolTaxonomy.isActiveCommonEquity (taxonomy : SymbolTaxonomy) : Bool :=
  taxonomy.securityType == "COMMON_EQUITY".toList && taxonomy.lifecycleStatus == "ACTIVE".toList

-- The two ValueErrors of one record.
inductive RecordError where
  | notObject
  | missingSymbol

-- The first nonblank value of the keys, stripped.
def recordText (fields : List (Text × Option Text)) : List String → Option Text
  | [] => none
  | key :: keys =>
    match (fields.find? (fun field => field.1 == key.toList)).bind Prod.snd with
    | none => recordText fields keys
    | some value => if strip value = [] then recordText fields keys else some (strip value)

-- `.upper().replace("-", "_").replace(" ", "_")`
def normalizedCode (value : Text) : Text :=
  (upper value).map (fun c => if c = '-' ∨ c = ' ' then '_' else c)

def securityType (value : Option Text) : Text :=
  let normalized := normalizedCode (value.getD [])
  if normalized ∈ [[],"COMMON_STOCK".toList,"COMMON_EQUITY".toList,"STOCK".toList,"EQUITY".toList] then
    "COMMON_EQUITY".toList
  else if normalized ∈ ["ETF".toList,"FUND".toList,"EXCHANGE_TRADED_FUND".toList] then "ETF".toList
  else if normalized ∈ ["CW".toList,"COVERED_WARRANT".toList,"WARRANT".toList] then "COVERED_WARRANT".toList
  else if normalized ∈ ["INDEX".toList,"BENCHMARK".toList] then "INDEX".toList
  else if normalized ∈ ["BOND".toList,"FIXED_INCOME".toList] then "BOND".toList
  else "UNKNOWN".toList

def lifecycleStatus (value : Option Text) : Text :=
  let normalized := normalizedCode (value.getD "ACTIVE".toList)
  if normalized ∈ ["ACTIVE".toList,"LISTED".toList,"TRADING".toList,"TRADEABLE".toList] then "ACTIVE".toList
  else if normalized ∈ ["SUSPENDED".toList,"HALTED".toList,"PAUSED".toList] then "SUSPENDED".toList
  else if normalized ∈ ["DELISTED".toList,"DELIST".toList,"REMOVED".toList] then "DELISTED".toList
  else if normalized ∈ ["INACTIVE".toList,"UNLISTED".toList] then "INACTIVE".toList
  else "UNKNOWN".toList

def normalizeSymbolTaxonomy (source : Text) : SourceRecord → Except RecordError SymbolTaxonomy
  | .other => .error .notObject
  | .object fields =>
    match recordText fields ["symbol"] with
    | none => .error .missingSymbol
    | some symbol => .ok
      {symbol := upper symbol,exchange := recordText fields ["exchange"],
       name := recordText fields ["name","full_name","company_name"],
       securityType := securityType (recordText fields ["security_type","asset_type","type"]),
       lifecycleStatus := lifecycleStatus (recordText fields ["lifecycle_status","trading_status","status"]),
       listingDate := recordText fields ["listing_date","listed_date"],
       delistingDate := recordText fields ["delisting_date","delisted_date"],
       sectorCode := recordText fields ["sector_code"],sectorName := recordText fields ["sector_name","sector"],
       industryCode := recordText fields ["industry_code"],
       industryName := recordText fields ["industry_name","industry"],
       taxonomyName := (recordText fields ["taxonomy_name"]).getD "source_unversioned".toList,
       taxonomyVersion := (recordText fields ["taxonomy_version"]).getD "unversioned".toList,
       classificationSource := source,
       effectiveFrom := recordText fields ["classification_effective_from","effective_from"]}

-- The records that name a symbol, normalized.
def taxonomies (source : Text) (records : List SourceRecord) : List SymbolTaxonomy :=
  records.filterMap (fun record => (normalizeSymbolTaxonomy source record).toOption)

end OpenStock.Ingestion
