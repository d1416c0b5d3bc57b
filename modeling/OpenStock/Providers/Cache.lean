import Mathlib.Data.Rat.Defs
import OpenStock.Foundations.JsonRoundTrip
import OpenStock.Foundations.Rows

namespace OpenStock.Providers
open Text

/- The arguments of a call. -/

-- Python values as `json.dumps(..., default=str)` sees them. An object it does not
-- know is written as its `str`; one that has none makes it raise.
inductive Value where
  | none
  | bool (value : Bool)
  | int (value : Int)
  | float (lexeme : Text)
  | str (value : Text)
  | list (items : List Value)
  | tuple (items : List Value)
  | dict (members : List (Text × Value))
  | object (kind text : Text)
  | unserialisable (kind : Text)

namespace Value

mutual
def json : Value → Option Json
  | .none => some .null
  | .bool value => some (.bool value)
  | .int value => some (.int value)
  | .float lexeme => some (.float lexeme)
  | .str value => some (.str value)
  | .list items => (jsonItems items).map .arr
  | .tuple items => (jsonItems items).map .arr
  | .dict members => (jsonMembers members).map .obj
  | .object _ text => some (.str text)
  | .unserialisable _ => .none
def jsonItems : List Value → Option (List Json)
  | [] => some []
  | item :: items => do
    let item ← json item
    let items ← jsonItems items
    some (item :: items)
def jsonMembers : List (Text × Value) → Option (List (Text × Json))
  | [] => some []
  | (key,value) :: members => do
    let value ← json value
    let members ← jsonMembers members
    some ((key,value) :: members)
end

-- What two values share when `json.dumps(..., sort_keys=True)` prints them alike.
def printed (value : Value) : Option Json := value.json.map Json.sortKeys

mutual
def hashable : Value → Bool
  | .list _ => false
  | .dict _ => false
  | .tuple items => hashableItems items
  | _ => true
def hashableItems : List Value → Bool
  | [] => true
  | item :: items => hashable item && hashableItems items
end

def truthy : Value → Bool
  | .none => false
  | .bool value => value
  | .int value => value ≠ 0
  | .float lexeme => lexeme.any (fun c => c.isAlpha || (c.isDigit && c ≠ '0'))
  | .str value => value ≠ []
  | .list items => !items.isEmpty
  | .tuple items => !items.isEmpty
  | .dict members => !members.isEmpty
  | .object _ _ => true
  | .unserialisable _ => true

end Value

-- A dict with string keys: the keyword arguments.
structure Kwargs where
  items : List (Text × Value)
  distinct : (items.map Prod.fst).Nodup

namespace Kwargs

def get (kwargs : Kwargs) (key : Text) : Option Value :=
  (kwargs.items.find? (fun item => item.1 == key)).map Prod.snd

def without (kwargs : Kwargs) (keys : List Text) : Kwargs :=
  ⟨kwargs.items.filter (fun item => item.1 ∉ keys),kwargs.distinct.sublist (List.filter_sublist.map _)⟩

-- `kwargs[key] = value`. The order of a dict is not observed here.
def set (kwargs : Kwargs) (key : Text) (value : Value) : Kwargs where
  items := (key,value) :: (kwargs.without [key]).items
  distinct := by
    refine List.nodup_cons.mpr ⟨?_,(kwargs.without [key]).distinct⟩
    simp [without]

-- `kwargs.pop(key, default)`.
def pop (kwargs : Kwargs) (key : Text) (default : Value) : Value × Kwargs :=
  ((kwargs.get key).getD default,kwargs.without [key])

-- `{**kwargs, **others}`.
def merge (kwargs others : Kwargs) : Kwargs :=
  others.items.foldl (fun merged item => merged.set item.1 item.2) kwargs

def empty : Kwargs := ⟨[],List.nodup_nil⟩

variable {keys : List Text} {key : Text}

theorem find_other (kept : key ∉ keys) (items : List (Text × Value)) :
    (items.filter (fun item => item.1 ∉ keys)).find? (fun item => item.1 == key) = items.find? (fun item => item.1 == key) := by
  induction items with
  | nil => rfl
  | cons item items ih =>
    by_cases same : item.1 = key
    · simp [same,kept]
    · by_cases dropped : item.1 ∈ keys
      · simpa [dropped,same] using ih
      · simpa [dropped,same] using ih

variable (kwargs : Kwargs)

@[simp] theorem get_without (kept : key ∉ keys) : (kwargs.without keys).get key = kwargs.get key := by
  rw [get,without,find_other kept]
  rfl

@[simp] theorem get_removed (gone : key ∈ keys) : (kwargs.without keys).get key = none := by
  simp only [get,without,Option.map_eq_none_iff,List.find?_eq_none,List.mem_filter]
  intro item inside same
  have equal : item.1 = key := by simpa using same
  simp [equal,gone] at inside

theorem without_absent (absent : ∀ key ∈ keys, kwargs.get key = none) : kwargs.without keys = kwargs := by
  obtain ⟨items,distinct⟩ := kwargs
  have kept : ∀ item ∈ items, decide (item.1 ∉ keys) = true := by
    intro item inside
    rw [decide_eq_true_eq]
    intro listed
    have missing := absent item.1 listed
    simp only [get,Option.map_eq_none_iff,List.find?_eq_none] at missing
    exact missing item inside (by simp)
  simp only [without,List.filter_eq_self.mpr kept]

@[simp] theorem get_set (key : Text) (value : Value) : (kwargs.set key value).get key = some value := by
  simp [get,set]

theorem get_set_other {key other : Text} (value : Value) (differs : other ≠ key) :
    (kwargs.set key value).get other = kwargs.get other := by
  have skipped : (kwargs.set key value).get other = (kwargs.without [key]).get other := by simp [get,set,differs.symm]
  rw [skipped,get_without]
  simpa using differs

end Kwargs

/- The key of a cached result. -/

-- SHA-256 of the text that `json.dumps(..., sort_keys=True)` prints for a tree whose
-- keys are sorted: no two of them collide.
class CacheHash where
  Digest : Type
  decidable : DecidableEq Digest
  hexdigest : Json → Digest
  injective : Function.Injective hexdigest

instance [CacheHash] : DecidableEq CacheHash.Digest := CacheHash.decidable

def payloadItems (provider : Value) (method : Text) (kwargs : Kwargs) (domain subdomain : Text) : List (Text × Value) :=
  [("domain".toList,.str domain),("subdomain".toList,.str subdomain),("provider".toList,provider),
    ("method".toList,.str method),("kwargs".toList,.dict kwargs.items)]

-- `none` when `json.dumps` raises.
def makeCacheKey [CacheHash] (provider : Value) (method : Text) (kwargs : Kwargs) (domain subdomain : Text) :
    Option CacheHash.Digest :=
  (Value.dict (payloadItems provider method kwargs domain subdomain)).printed.map CacheHash.hexdigest

variable {items : List (Text × Value)} {members : List (Text × Json)}

theorem jsonMembers_keys (written : Value.jsonMembers items = some members) : members.map Prod.fst = items.map Prod.fst := by
  induction items generalizing members with
  | nil =>
    cases written
    rfl
  | cons item items ih =>
    simp only [Value.jsonMembers,Option.bind_eq_bind,Option.bind_eq_some_iff] at written
    obtain ⟨value,_,rest,later,same⟩ := written
    cases same
    simp [ih later]

theorem jsonMembers_lookup (written : Value.jsonMembers items = some members) (key : Text) :
    Json.lookup members key = ((items.find? (fun item => item.1 == key)).map Prod.snd).bind Value.json := by
  induction items generalizing members with
  | nil =>
    cases written
    rfl
  | cons item items ih =>
    simp only [Value.jsonMembers,Option.bind_eq_bind,Option.bind_eq_some_iff] at written
    obtain ⟨value,first,rest,later,same⟩ := written
    cases same
    by_cases equal : item.1 = key
    · simp [Json.lookup,equal,first]
    · have skipped := ih later
      simp only [Json.lookup] at skipped
      simpa [Json.lookup,equal] using skipped

variable {tree : Json}

-- What a printed dict answers under a key.
theorem printed_dict (distinct : (items.map Prod.fst).Nodup)
    (written : (Value.dict items).printed = some tree) : ∃ members, tree = .obj members ∧
      ∀ key, Json.lookup members key = ((items.find? (fun item => item.1 == key)).map Prod.snd).bind Value.printed := by
  simp only [Value.printed,Value.json,Option.map_map,Option.map_eq_some_iff] at written
  obtain ⟨members,listed,same⟩ := written
  refine ⟨(Json.sortMembers members).insertionSort Json.keyBefore,same.symm,?_⟩
  intro key
  rw [Json.lookup_sorted (by rw [jsonMembers_keys listed]; exact distinct),jsonMembers_lookup listed]
  cases items.find? (fun item => item.1 == key) <;> rfl

variable {item : Text × Value}

theorem jsonMembers_each (written : Value.jsonMembers items = some members) (inside : item ∈ items) :
    ∃ printed, item.2.printed = some printed := by
  induction items generalizing members with
  | nil => cases inside
  | cons head items ih =>
    simp only [Value.jsonMembers,Option.bind_eq_bind,Option.bind_eq_some_iff] at written
    obtain ⟨value,first,rest,later,_⟩ := written
    cases inside with
    | head => exact ⟨Json.sortKeys value,by simp [Value.printed,first]⟩
    | tail _ inside => exact ih later inside

-- A dict is printed only if each of its values is.
theorem printed_member (written : (Value.dict items).printed = some tree)
    (inside : item ∈ items) : ∃ printed, item.2.printed = some printed := by
  simp only [Value.printed,Value.json,Option.map_map,Option.map_eq_some_iff] at written
  obtain ⟨members,listed,_⟩ := written
  exact jsonMembers_each listed inside

-- Two dicts printed alike have the same printed value under each key.
theorem printed_agree (leftDistinct : (left.map Prod.fst).Nodup)
    (rightDistinct : (right.map Prod.fst).Nodup) (first : (Value.dict left).printed = some tree)
    (second : (Value.dict right).printed = some tree) (key : Text) :
    ((left.find? (fun item => item.1 == key)).map Prod.snd).bind Value.printed =
      ((right.find? (fun item => item.1 == key)).map Prod.snd).bind Value.printed := by
  obtain ⟨leftMembers,leftTree,leftRead⟩ := printed_dict leftDistinct first
  obtain ⟨rightMembers,rightTree,rightRead⟩ := printed_dict rightDistinct second
  have same : leftMembers = rightMembers := by
    rw [leftTree] at rightTree
    injection rightTree
  rw [← leftRead,← rightRead,same]

theorem printed_str (text : Text) : (Value.str text).printed = some (.str text) := by
  simp [Value.printed,Value.json,Json.sortKeys]

theorem printed_text (same : (Value.str left).printed = (Value.str right).printed) : left = right := by
  rw [printed_str,printed_str] at same
  injection same with tree
  injection tree

theorem payload_distinct (provider : Value) (method : Text) (kwargs : Kwargs) (domain subdomain : Text) :
    Rows.Distinct Prod.fst (payloadItems provider method kwargs domain subdomain) := by
  have names : (["domain".toList,"subdomain".toList,"provider".toList,"method".toList,"kwargs".toList] : List Text).Nodup := by
    decide
  exact names

-- Equal keys: equal scope, and arguments that print alike.
theorem keys_agree [CacheHash] {kwargs arguments : Kwargs} {key : CacheHash.Digest}
    (first : makeCacheKey provider method kwargs domain subdomain = some key)
    (second : makeCacheKey other function arguments region leaf = some key) :
    domain = region ∧ subdomain = leaf ∧ provider.printed = other.printed ∧ method = function ∧
      ∀ name, (kwargs.get name).bind Value.printed = (arguments.get name).bind Value.printed := by
  simp only [makeCacheKey,Option.map_eq_some_iff] at first second
  obtain ⟨left,leftPrinted,leftKey⟩ := first
  obtain ⟨right,rightPrinted,rightKey⟩ := second
  have same : right = left := CacheHash.injective (rightKey.trans leftKey.symm)
  rw [same] at rightPrinted
  have here := payload_distinct provider method kwargs domain subdomain
  have there := payload_distinct other function arguments region leaf
  have agree : ∀ {name : Text} {value paired : Value}, (name,value) ∈ payloadItems provider method kwargs domain subdomain →
      (name,paired) ∈ payloadItems other function arguments region leaf → value.printed = paired.printed := by
    intro name value paired first second
    have printed := printed_agree here there leftPrinted rightPrinted name
    rw [Rows.select_key here first,Rows.select_key there second] at printed
    exact printed
  have ofArguments := agree (.tail _ (.tail _ (.tail _ (.tail _ (.head _))))) (.tail _ (.tail _ (.tail _ (.tail _ (.head _)))))
  refine ⟨?_,?_,?_,?_,?_⟩
  · exact printed_text (agree (.head _) (.head _))
  · exact printed_text (agree (.tail _ (.head _)) (.tail _ (.head _)))
  · exact agree (.tail _ (.tail _ (.head _))) (.tail _ (.tail _ (.head _)))
  · exact printed_text (agree (.tail _ (.tail _ (.tail _ (.head _)))) (.tail _ (.tail _ (.tail _ (.head _)))))
  · obtain ⟨tree,printed⟩ := printed_member leftPrinted (.tail _ (.tail _ (.tail _ (.tail _ (.head _)))))
    exact printed_agree kwargs.distinct arguments.distinct printed (ofArguments.symm.trans printed)

def ttlMarket : Int := 3600
def ttlReference : Int := 86400
def ttlFundamental : Int := 86400
def ttlFund : Int := 14400
def ttlRetail : Int := 3600
def ttlIntraday : Int := 3600

def marketMethods : List Text :=
  ["ohlcv".toList,"history".toList,"quote".toList,"price_board".toList,"price".toList,"short".toList,"full".toList]

def intradayMethods : List Text := ["intraday".toList,"trades".toList]

def getDefaultTtl (domain subdomain method : Text) : Int :=
  let m := lower method
  let d := lower domain
  let s := lower subdomain
  if m ∈ intradayMethods then ttlIntraday
  else if m ∈ marketMethods then ttlMarket
  else if s = "fund".toList ∨ d = "fund".toList then ttlFund
  else if d = "market".toList then ttlMarket
  else if d = "reference".toList ∨ d = "listing".toList then ttlReference
  else if d = "fundamental".toList then ttlFundamental
  else if d = "retail".toList then ttlRetail
  else -1

/- The cache itself. -/

-- What a call returns.
inductive Data where
  | none
  | frame (rows : List Text)
  | other (content : Text)
  | many (results : List Data)

section
variable [CacheHash]

structure Entry where
  key : CacheHash.Digest
  value : Data
  expiry : ℚ

inductive Backend where
  | memory (store : List Entry)
  | sqlite (rows : List Entry) (setCount : Nat)

structure CacheManager where
  enabled : Bool
  ttl : Int
  maxSize : Nat
  backend : Backend

def Backend.entries : Backend → List Entry
  | .memory store => store
  | .sqlite rows _ => rows

def find (entries : List Entry) (key : CacheHash.Digest) : Option Entry := entries.find? (fun entry => entry.key == key)

def discard (entries : List Entry) (key : CacheHash.Digest) : List Entry := entries.filter (fun entry => entry.key ≠ key)

-- Both backends drop an expired entry when it is asked for.
def looked (entries : List Entry) (key : CacheHash.Digest) (now : ℚ) : Option Data × List Entry :=
  match find entries key with
  | none => (none,entries)
  | some entry => if now > entry.expiry then (none,discard entries key) else (some entry.value,entries)

def Backend.get (backend : Backend) (key : CacheHash.Digest) (now : ℚ) : Option Data × Backend :=
  match backend with
  | .memory store => let (value,store) := looked store key now; (value,.memory store)
  | .sqlite rows setCount => let (value,rows) := looked rows key now; (value,.sqlite rows setCount)

def sweepInterval : Nat := 100

def Backend.set (backend : Backend) (maxSize : Nat) (new : Entry) (now : ℚ) : Backend :=
  match backend with
  | .memory store =>
    let store := discard store new.key ++ [new]
    .memory (store.drop (store.length - maxSize))
  | .sqlite rows setCount =>
    let rows := discard rows new.key ++ [new]
    if (setCount + 1) % sweepInterval = 0 then
      let live := rows.filter (fun entry => ¬ entry.expiry ≤ now)
      let evicted := (live.insertionSort (fun left right => left.expiry ≤ right.expiry)).take (live.length - maxSize)
      .sqlite (live.filter (fun entry => entry.key ∉ evicted.map Entry.key)) (setCount + 1)
    else .sqlite rows (setCount + 1)

def Backend.delete (backend : Backend) (key : CacheHash.Digest) : Backend :=
  match backend with
  | .memory store => .memory (discard store key)
  | .sqlite rows setCount => .sqlite (discard rows key) setCount

def Backend.clear (backend : Backend) : Backend :=
  match backend with
  | .memory _ => .memory []
  | .sqlite _ setCount => .sqlite [] setCount

def CacheManager.get (cache : CacheManager) (key : CacheHash.Digest) (now : ℚ) : Option Data × CacheManager :=
  if cache.enabled then
    let (value,backend) := cache.backend.get key now
    (value,{cache with backend:=backend})
  else (none,cache)

-- A value that cannot be pickled is not stored.
def CacheManager.set (cache : CacheManager) (picklable : Data → Bool) (key : CacheHash.Digest) (value : Data) (ttl : Int)
    (now : ℚ) : CacheManager :=
  if cache.enabled && picklable value then
    {cache with backend:=cache.backend.set cache.maxSize ⟨key,value,now + ttl⟩ now}
  else cache

def CacheManager.entries (cache : CacheManager) : List Entry := cache.backend.entries

variable (entries : List Entry) (key : CacheHash.Digest)

theorem discard_subset : discard entries key ⊆ entries :=
  List.filter_subset_self _

theorem looked_subset (now : ℚ) : (looked entries key now).2 ⊆ entries := by
  unfold looked
  cases find entries key with
  | none => exact List.Subset.refl _
  | some entry =>
    by_cases expired : now > entry.expiry
    · simpa [expired] using discard_subset entries key
    · simp [expired]

variable {key : CacheHash.Digest} {value : Data} {now : ℚ} {entries : List Entry}

theorem looked_found
    (read : (looked entries key now).1 = some value) : ∃ entry ∈ entries, entry.key = key ∧ entry.value = value := by
  unfold looked at read
  cases found : find entries key with
  | none =>
    rw [found] at read
    cases read
  | some entry =>
    rw [found] at read
    have same : entry.key = key := by simpa using List.find?_some found
    by_cases expired : now > entry.expiry
    · simp [expired] at read
    · refine ⟨entry,List.mem_of_find?_eq_some found,same,?_⟩
      simpa [expired] using read

theorem get_subset (cache : CacheManager) (key : CacheHash.Digest) (now : ℚ) : (cache.get key now).2.entries ⊆ cache.entries := by
  unfold CacheManager.get
  by_cases enabled : cache.enabled
  · rw [if_pos enabled]
    unfold CacheManager.entries Backend.get
    cases cache.backend with
    | memory store => exact looked_subset store key now
    | sqlite rows setCount => exact looked_subset rows key now
  · rw [if_neg enabled]
    exact List.Subset.refl _

variable {cache : CacheManager}

-- What the cache answers is one of its entries.
theorem get_found
    (read : (cache.get key now).1 = some value) : ∃ entry ∈ cache.entries, entry.key = key ∧ entry.value = value := by
  unfold CacheManager.get at read
  by_cases enabled : cache.enabled
  · rw [if_pos enabled] at read
    unfold Backend.get at read
    unfold CacheManager.entries
    cases backend : cache.backend with
    | memory store | sqlite rows setCount =>
      rw [backend] at read
      exact looked_found read
  · rw [if_neg enabled] at read
    cases read

theorem added_subset (inside : entry ∈ discard entries new.key ++ [new]) : entry = new ∨ entry ∈ entries := by
  rcases List.mem_append.mp inside with kept | last
  · exact .inr (discard_subset _ _ kept)
  · exact .inl (List.mem_singleton.mp last)

-- Storing adds one entry; whatever is evicted, no other appears.
theorem set_subset (inside : entry ∈ (cache.set picklable key value ttl now).entries) :
    entry = ⟨key,value,now + ttl⟩ ∨ entry ∈ cache.entries := by
  unfold CacheManager.set at inside
  by_cases stored : (cache.enabled && picklable value) = true
  · rw [if_pos stored] at inside
    unfold CacheManager.entries Backend.set at *
    cases backend : cache.backend with
    | memory store =>
      rw [backend] at inside
      exact added_subset (List.mem_of_mem_drop inside)
    | sqlite rows setCount =>
      rw [backend] at inside
      by_cases sweeps : (setCount + 1) % sweepInterval = 0
      · simp only [sweeps,if_true,Backend.entries] at inside
        exact added_subset (List.mem_of_mem_filter (List.mem_of_mem_filter inside))
      · simp only [sweeps,if_false,Backend.entries] at inside
        exact added_subset inside
  · rw [if_neg stored] at inside
    exact .inr inside

end
end OpenStock.Providers
