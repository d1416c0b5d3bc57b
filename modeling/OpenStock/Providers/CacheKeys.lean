import Mathlib.Data.Int.Log
import OpenStock.Foundations.Calendar
import OpenStock.Foundations.HalfEven
import OpenStock.Foundations.JsonLayout
import OpenStock.Providers.Dispatch

namespace OpenStock.Providers
open Text

namespace Value

/- Numbers as Python compares them. -/

inductive Number where
  | nan
  | infinite (positive : Bool)
  | finite (value : ℚ)
deriving DecidableEq

-- The decimal that `float.__repr__` writes.
def decimal (lexeme : Text) : ℚ :=
  let mantissa := lexeme.takeWhile (fun c => c ≠ 'e')
  let exponent := (lexeme.dropWhile (fun c => c ≠ 'e')).drop 1
  let fraction := (mantissa.dropWhile (fun c => c ≠ '.')).drop 1
  let digits (text : Text) : Nat := Nat.ofDigitChars 10 (text.filter Char.isDigit) 0
  let shift : Int := if '-' ∈ exponent then -digits exponent else digits exponent
  let size : ℚ := digits mantissa * (10 : ℚ) ^ (shift - fraction.length)
  if lexeme.head? = some '-' then -size else size

-- The double next to it.
def nearestDouble (value : ℚ) : ℚ :=
  if value = 0 then 0
  else
    let unit : ℚ := (2 : ℚ) ^ max (Int.log 2 |value| - 52) (-1074)
    HalfEven.nearest (value / unit) * unit

def nan : Text := "NaN".toList

def readFloat (lexeme : Text) : Number :=
  if lexeme = nan then .nan
  else if lexeme = "Infinity".toList then .infinite true
  else if lexeme = "-Infinity".toList then .infinite false
  else .finite (nearestDouble (decimal lexeme))

def number : Value → Option Number
  | .bool value => some (.finite (if value then 1 else 0))
  | .int value => some (.finite value)
  | .float lexeme => some (readFloat lexeme)
  | _ => Option.none

/- Two values compared at their leaves. A dict is compared by its keys; `mixing` lets a
list stand where the other value has a tuple. -/

def select (members : List (Text × Value)) (key : Text) : Option Value :=
  (members.find? (fun member => member.1 == key)).map Prod.snd

section
variable (leaf : Value → Value → Bool) (mixing : Bool)

mutual
def related : Value → Value → Bool
  | .list left,.list right => relatedItems left right
  | .tuple left,.tuple right => relatedItems left right
  | .list left,.tuple right => mixing && relatedItems left right
  | .tuple left,.list right => mixing && relatedItems left right
  | .dict left,.dict right => left.length = right.length && relatedMembers left right
  | left,right => leaf left right
def relatedItems : List Value → List Value → Bool
  | [],[] => true
  | left :: lefts,right :: rights => related left right && relatedItems lefts rights
  | _,_ => false
def relatedMembers : List (Text × Value) → List (Text × Value) → Bool
  | [],_ => true
  | (key,value) :: members,others =>
    (match select others key with
      | some other => related value other
      | Option.none => false) && relatedMembers members others
end

end

-- Python's `==`.
def equalLeaf : Value → Value → Bool
  | .none,.none => true
  | .str left,.str right => left = right
  | .object kind left,.object other right => kind = other && left = right
  | left,right =>
    match left.number,right.number with
    | some one,some another => one ≠ .nan && one = another
    | _,_ => false

def equal (left right : Value) : Bool := related equalLeaf false left right

-- Values that `json.dumps(..., default=str)` writes alike: an object it does not know
-- stands for its text, a tuple for a list.
def alikeLeaf : Value → Value → Bool
  | .none,.none => true
  | .bool left,.bool right => left = right
  | .int left,.int right => left = right
  | .float left,.float right => left = right
  | .str left,.str right => left = right
  | .str left,.object _ right => left = right
  | .object _ left,.str right => left = right
  | .object _ left,.object _ right => left = right
  | _,_ => false

def alike (left right : Value) : Bool := related alikeLeaf true left right

-- The same kinds of values at the same places, and no NaN.
def sameKindsLeaf : Value → Value → Bool
  | .str _,.object _ _ => false
  | .object _ _,.str _ => false
  | .object kind _,.object other _ => kind = other
  | .float lexeme,_ => lexeme ≠ nan
  | _,_ => true

def sameKinds (left right : Value) : Bool := related sameKindsLeaf false left right

/- The values of a call: dates are the only objects among them. -/

mutual
def Plain : Value → Prop
  | .float lexeme => Json.isLexeme lexeme = true
  | .list items => PlainItems items
  | .tuple items => PlainItems items
  | .dict members => (members.map Prod.fst).Nodup ∧ PlainMembers members
  | .object kind text => kind = "date".toList ∧ ∃ day : Calendar.Date, text = day.isoformat
  | .unserialisable _ => False
  | _ => True
def PlainItems : List Value → Prop
  | [] => True
  | item :: items => Plain item ∧ PlainItems items
def PlainMembers : List (Text × Value) → Prop
  | [] => True
  | (_,value) :: members => Plain value ∧ PlainMembers members
end

-- What `json.dumps` writes of them, before the keys are sorted.
mutual
def tree : Value → Json
  | .none => .null
  | .bool value => .bool value
  | .int value => .int value
  | .float lexeme => .float lexeme
  | .str value => .str value
  | .list items => .arr (treeItems items)
  | .tuple items => .arr (treeItems items)
  | .dict members => .obj (treeMembers members)
  | .object _ text => .str text
  | .unserialisable _ => .null
def treeItems : List Value → List Json
  | [] => []
  | item :: items => tree item :: treeItems items
def treeMembers : List (Text × Value) → List (Text × Json)
  | [] => []
  | (key,value) :: members => (key,tree value) :: treeMembers members
end

mutual
theorem json_tree : ∀ value : Value, value.Plain → value.json = some value.tree
  | .none,_ | .bool _,_ | .int _,_ | .float _,_ | .str _,_ | .object _ _,_ => rfl
  | .list items,plain | .tuple items,plain => by simp [json,tree,jsonItems_tree items plain]
  | .dict members,plain => by simp [json,tree,jsonMembers_tree members plain.2]
  | .unserialisable _,plain => plain.elim
theorem jsonItems_tree : ∀ items : List Value, PlainItems items → jsonItems items = some (treeItems items)
  | [],_ => rfl
  | item :: items,plain => by simp [jsonItems,treeItems,json_tree item plain.1,jsonItems_tree items plain.2]
theorem jsonMembers_tree : ∀ members : List (Text × Value), PlainMembers members →
    jsonMembers members = some (treeMembers members)
  | [],_ => rfl
  | (key,value) :: members,plain => by
    simp [jsonMembers,treeMembers,json_tree value plain.1,jsonMembers_tree members plain.2]
end

mutual
theorem tree_printable : ∀ value : Value, value.Plain → Json.Printable value.tree
  | .none,_ | .bool _,_ | .int _,_ | .str _,_ | .object _ _,_ | .unserialisable _,_ => trivial
  | .float _,plain => plain
  | .list items,plain | .tuple items,plain => treeItems_printable items plain
  | .dict members,plain => treeMembers_printable members plain.2
theorem treeItems_printable : ∀ items : List Value, PlainItems items → Json.PrintableItems (treeItems items)
  | [],_ => trivial
  | item :: items,plain => ⟨tree_printable item plain.1,treeItems_printable items plain.2⟩
theorem treeMembers_printable : ∀ members : List (Text × Value), PlainMembers members →
    Json.PrintableMembers (treeMembers members)
  | [],_ => trivial
  | (_,value) :: members,plain => ⟨tree_printable value plain.1,treeMembers_printable members plain.2⟩
end

theorem treeMembers_map (members : List (Text × Value)) :
    treeMembers members = members.map (fun member => (member.1,member.2.tree)) := by
  induction members with
  | nil => rfl
  | cons member members ih => simp [treeMembers,ih]

theorem plainMembers_iff : PlainMembers members ↔ ∀ member ∈ members, member.2.Plain := by
  induction members with
  | nil => simp [PlainMembers]
  | cons member members ih => simp [PlainMembers,ih]

variable {members : List (Text × Value)}

theorem select_iff (distinct : (members.map Prod.fst).Nodup) {key : Text} :
    select members key = some value ↔ (key,value) ∈ members := by
  constructor
  · intro found
    obtain ⟨member,first,same⟩ := Option.map_eq_some_iff.mp found
    have named : member.1 = key := by simpa using List.find?_some first
    rw [← named,← same]
    exact List.mem_of_find?_eq_some first
  · intro inside
    have found : members.find? (fun member => member.1 == key) = some (key,value) := Rows.select_key distinct inside
    simp [select,found]

-- What a dict holds under a key, in the sorted tree.
theorem member_sorted (distinct : (members.map Prod.fst).Nodup) {key : Text} :
    (key,branch) ∈ Json.sortMembers (treeMembers members) ↔
      ∃ value, select members key = some value ∧ Json.sortKeys value.tree = branch := by
  simp only [Json.sortMembers_map,treeMembers_map,List.map_map,List.mem_map,Function.comp_apply,Prod.mk.injEq,
    select_iff distinct,Prod.exists]
  constructor
  · intro ⟨name,value,inside,named,same⟩
    exact ⟨value,named ▸ inside,same⟩
  · intro ⟨value,inside,same⟩
    exact ⟨key,value,inside,rfl,same⟩

/- Sorted trees are equal exactly for values that are alike. -/

mutual
theorem tree_alike : ∀ left right : Value, left.Plain → right.Plain →
    (Json.sortKeys left.tree = Json.sortKeys right.tree ↔ related alikeLeaf true left right = true)
  | .list items,right,plain,other | .tuple items,right,plain,other => by
    cases right with
    | list others | tuple others => simp [tree,Json.sortKeys,related,treeItems_alike items others plain other]
    | _ => simp [tree,Json.sortKeys,related,alikeLeaf]
  | .dict members,right,plain,other => by
    cases right with
    | dict others =>
      have inside := treeMembers_alike members others plain.2 other.2 other.1
      have distinct : ((Json.sortMembers (treeMembers members)).map Prod.fst).Nodup := by
        simpa [Json.sortMembers_map,treeMembers_map,Function.comp_def] using plain.1
      have long : (Json.sortMembers (treeMembers members)).length = (Json.sortMembers (treeMembers others)).length ↔
          members.length = others.length := by
        simp [Json.sortMembers_map,treeMembers_map]
      simp only [tree,Json.sortKeys,Json.obj.injEq,related,Bool.and_eq_true,decide_eq_true_eq]
      rw [Json.insertionSort_perm distinct,Json.members_perm distinct,long,inside]
    | _ => simp [tree,Json.sortKeys,related,alikeLeaf]
  | .none,right,_,other | .bool _,right,_,other | .int _,right,_,other | .float _,right,_,other | .str _,right,_,other
  | .object _ _,right,_,other => by
    cases right with
    | unserialisable _ => exact other.elim
    | _ => simp [tree,Json.sortKeys,related,alikeLeaf]
  | .unserialisable _,_,plain,_ => plain.elim
theorem treeItems_alike : ∀ lefts rights : List Value, PlainItems lefts → PlainItems rights →
    (Json.sortItems (treeItems lefts) = Json.sortItems (treeItems rights) ↔ relatedItems alikeLeaf true lefts rights = true)
  | [],[],_,_ => by simp [relatedItems]
  | [],_ :: _,_,_ | _ :: _,[],_,_ => by simp [treeItems,Json.sortItems,relatedItems]
  | left :: lefts,right :: rights,plain,other => by
    simp [treeItems,Json.sortItems,relatedItems,tree_alike left right plain.1 other.1,
      treeItems_alike lefts rights plain.2 other.2]
theorem treeMembers_alike : ∀ lefts rights : List (Text × Value), PlainMembers lefts → PlainMembers rights →
    (rights.map Prod.fst).Nodup →
    ((∀ member ∈ Json.sortMembers (treeMembers lefts), member ∈ Json.sortMembers (treeMembers rights)) ↔
      relatedMembers alikeLeaf true lefts rights = true)
  | [],_,_,_,_ => by simp [treeMembers,Json.sortMembers,relatedMembers]
  | (key,value) :: lefts,rights,plain,others,distinct => by
    have later := treeMembers_alike lefts rights plain.2 others distinct
    rw [treeMembers,Json.sortMembers,List.forall_mem_cons,later,member_sorted distinct,relatedMembers,Bool.and_eq_true]
    cases found : select rights key with
    | none => simp
    | some other =>
      have inside := (select_iff distinct).mp found
      have here := tree_alike value other plain.1 (plainMembers_iff.mp others _ inside)
      simp [← here,eq_comm (a := other.tree.sortKeys)]
end

/- Where values are alike, Python's `==` only misses the kinds. -/

variable {leaf first second : Value → Value → Bool}

mutual
theorem related_agree (agree : ∀ left right, leaf left right = true → first left right = second left right) :
    ∀ left right : Value, related leaf true left right = true → related first false left right = related second false left right
  | .list items,right,linked => by
    cases right with
    | list others =>
      simp only [related] at linked ⊢
      exact relatedItems_agree agree items others linked
    | tuple others => rfl
    | _ => exact agree _ _ linked
  | .tuple items,right,linked => by
    cases right with
    | tuple others =>
      simp only [related] at linked ⊢
      exact relatedItems_agree agree items others linked
    | list others => rfl
    | _ => exact agree _ _ linked
  | .dict members,right,linked => by
    cases right with
    | dict others =>
      simp only [related,Bool.and_eq_true] at linked ⊢
      rw [relatedMembers_agree agree members others linked.2]
    | _ => exact agree _ _ linked
  | .none,right,linked | .bool _,right,linked | .int _,right,linked | .float _,right,linked | .str _,right,linked
  | .object _ _,right,linked | .unserialisable _,right,linked => by
    simp only [related] at linked ⊢
    exact agree _ _ linked
theorem relatedItems_agree (agree : ∀ left right, leaf left right = true → first left right = second left right) :
    ∀ lefts rights : List Value, relatedItems leaf true lefts rights = true →
    relatedItems first false lefts rights = relatedItems second false lefts rights
  | [],[],_ | [],_ :: _,_ | _ :: _,[],_ => rfl
  | left :: lefts,right :: rights,linked => by
    simp only [relatedItems,Bool.and_eq_true] at linked ⊢
    rw [related_agree agree left right linked.1,relatedItems_agree agree lefts rights linked.2]
theorem relatedMembers_agree (agree : ∀ left right, leaf left right = true → first left right = second left right) :
    ∀ lefts rights : List (Text × Value), relatedMembers leaf true lefts rights = true →
    relatedMembers first false lefts rights = relatedMembers second false lefts rights
  | [],_,_ => rfl
  | (key,value) :: lefts,rights,linked => by
    simp only [relatedMembers,Bool.and_eq_true] at linked ⊢
    rw [relatedMembers_agree agree lefts rights linked.2]
    cases found : select rights key with
    | none => rfl
    | some other =>
      rw [found] at linked
      simp only [related_agree agree value other linked.1]
end

theorem leaf_agree (left right : Value) (linked : alikeLeaf left right = true) :
    equalLeaf left right = sameKindsLeaf left right := by
  cases left with
  | float lexeme =>
    cases right with
    | float other =>
      have same : lexeme = other := by simpa [alikeLeaf] using linked
      subst same
      by_cases missing : lexeme = nan
      · simp [equalLeaf,sameKindsLeaf,number,readFloat,missing]
      · have valued : readFloat lexeme ≠ .nan := by
          unfold readFloat
          rw [if_neg missing]
          split
          · simp
          · split <;> simp
        simp [equalLeaf,sameKindsLeaf,number,valued,missing]
    | _ => simp [alikeLeaf] at linked
  | _ => cases right <;> simp_all [alikeLeaf,equalLeaf,sameKindsLeaf,number]

theorem equal_sameKinds (linked : alike left right = true) : equal left right = sameKinds left right :=
  related_agree leaf_agree left right linked

end Value

/- Keys at the level of the text that is hashed. -/

-- SHA-256 on the text of a payload, taken as free of collisions.
class TextHash where
  Digest : Type
  hexdigest : Text → Digest
  injective : Function.Injective hexdigest

-- `json.dumps({...}, sort_keys=True, default=str)`, unless it raises.
def cachePayload (provider : Value) (method : Text) (kwargs : Kwargs) (domain subdomain : Text) : Option Text :=
  (Value.dict (payloadItems provider method kwargs domain subdomain)).printed.map (Json.write Json.spaced 0)

def makeTextKey [TextHash] (provider : Value) (method : Text) (kwargs : Kwargs) (domain subdomain : Text) :
    Option TextHash.Digest :=
  (cachePayload provider method kwargs domain subdomain).map TextHash.hexdigest

structure KeyedCall where
  provider : Text
  method : Text
  domain : Text
  subdomain : Text
  kwargs : Kwargs
  plain : Value.PlainMembers kwargs.items

namespace KeyedCall

def key [TextHash] (call : KeyedCall) : Option TextHash.Digest :=
  makeTextKey (.str call.provider) call.method call.kwargs call.domain call.subdomain

def SameScope (left right : KeyedCall) : Prop :=
  left.provider = right.provider ∧ left.method = right.method ∧ left.domain = right.domain ∧ left.subdomain = right.subdomain

def arguments (call : KeyedCall) : Value := .dict call.kwargs.items

-- Equal as Python values.
def Same (left right : KeyedCall) : Prop := left.SameScope right ∧ Value.equal left.arguments right.arguments = true

-- A date stands for its text somewhere, or a list for a tuple, or a NaN is among the
-- arguments, and nothing else tells the calls apart.
def Confused (left right : KeyedCall) : Prop :=
  left.SameScope right ∧ Value.alike left.arguments right.arguments = true ∧
    Value.sameKinds left.arguments right.arguments = false

def payload (call : KeyedCall) : Value :=
  .dict (payloadItems (.str call.provider) call.method call.kwargs call.domain call.subdomain)

theorem payload_plain (call : KeyedCall) : call.payload.Plain :=
  ⟨payload_distinct _ _ _ _ _,trivial,trivial,trivial,trivial,⟨call.kwargs.distinct,call.plain⟩,trivial⟩

theorem key_text [TextHash] (call : KeyedCall) :
    call.key = some (TextHash.hexdigest (Json.write Json.spaced 0 (Json.sortKeys call.payload.tree))) := by
  have written := Value.json_tree _ call.payload_plain
  rw [payload] at written
  simp [key,makeTextKey,cachePayload,Value.printed,written,payload]

-- The text keeps apart what the sorted trees keep apart.
theorem key_tree [TextHash] (left right : KeyedCall) :
    left.key = right.key ↔ Json.sortKeys left.payload.tree = Json.sortKeys right.payload.tree := by
  rw [key_text,key_text,Option.some.injEq,TextHash.injective.eq_iff]
  exact Json.write_sorted Json.spaced _ _ (Value.tree_printable _ left.payload_plain)
    (Value.tree_printable _ right.payload_plain)

theorem payload_alike (left right : KeyedCall) : Value.alike left.payload right.payload = true ↔
    left.SameScope right ∧ Value.alike left.arguments right.arguments = true := by
  simp [Value.alike,payload,payloadItems,Value.related,Value.relatedMembers,Value.select,Value.alikeLeaf,SameScope,arguments]
  tauto

theorem key_alike [TextHash] (left right : KeyedCall) :
    left.key = right.key ↔ left.SameScope right ∧ Value.alike left.arguments right.arguments = true := by
  rw [key_tree,Value.tree_alike _ _ left.payload_plain right.payload_plain]
  exact payload_alike left right

theorem key_order [TextHash] (left right : KeyedCall) (scope : left.SameScope right)
    (perm : left.kwargs.items.Perm right.kwargs.items) : left.key = right.key := by
  have distinct : ((Value.treeMembers left.kwargs.items).map Prod.fst).Nodup := by
    simpa [Value.treeMembers_map,Function.comp_def] using left.kwargs.distinct
  have members : (Value.treeMembers left.kwargs.items).Perm (Value.treeMembers right.kwargs.items) := by
    simpa [Value.treeMembers_map] using perm.map (fun member => (member.1,member.2.tree))
  have kwargs := Json.sortKeys_perm distinct members
  obtain ⟨provider,method,domain,subdomain⟩ := scope
  rw [key_tree]
  simp only [payload,payloadItems,Value.tree,Value.treeMembers,Json.sortKeys,Json.sortMembers,Json.obj.injEq] at kwargs ⊢
  rw [kwargs,provider,method,domain,subdomain]

-- Equal keys are keys of equal calls, unless `default=str` or the JSON array has hidden
-- a difference; and the order of the keyword arguments is no part of a key.
theorem cache_keys_exact [TextHash] (left right : KeyedCall) :
    left.key.isSome = true ∧ ((left.key = right.key → left.Same right) ↔ ¬left.Confused right) ∧
      (left.SameScope right → left.kwargs.items.Perm right.kwargs.items → left.key = right.key) := by
  refine ⟨by simp [key_text],?_,key_order left right⟩
  rw [key_alike]
  constructor
  · intro faithful ⟨scope,alike,kinds⟩
    have same := (faithful ⟨scope,alike⟩).2
    rw [Value.equal_sameKinds alike,kinds] at same
    cases same
  · intro apart ⟨scope,alike⟩
    refine ⟨scope,?_⟩
    rw [Value.equal_sameKinds alike]
    cases kinds : Value.sameKinds left.arguments right.arguments with
    | true => rfl
    | false => exact absurd ⟨scope,alike,kinds⟩ apart

section
abbrev sampleTextHash : TextHash := ⟨Text,id,Function.injective_id⟩

attribute [local instance] sampleTextHash

-- `ohlcv(start=...)` for a symbol, as the dispatcher keys it.
def keyedSample (start : Value) (plain : start.Plain) : KeyedCall where
  provider := "KBS".toList
  method := "ohlcv".toList
  domain := "Market".toList
  subdomain := "equity".toList
  kwargs := keyedArguments (.str "FPT".toList) [] ⟨[("start".toList,start)],List.nodup_singleton _⟩
  plain := ⟨plain,trivial,trivial,trivial⟩

def newYear : Calendar.Date := .of 2024 1 1

def datedCall : KeyedCall := keyedSample (.object "date".toList newYear.isoformat) ⟨rfl,newYear,rfl⟩

def writtenCall : KeyedCall := keyedSample (.str newYear.isoformat) trivial

-- The day as a date and the day as text are keyed alike.
theorem dated_written_collide : ¬ ∀ [TextHash] (left right : KeyedCall), (left.key = right.key → left.Same right) ∧
    (left.SameScope right → left.kwargs.items.Perm right.kwargs.items → left.key = right.key) := by
  intro claimed
  have collide : datedCall.key = writtenCall.key := by
    rw [key_alike]
    exact ⟨⟨rfl,rfl,rfl,rfl⟩,by decide⟩
  obtain ⟨_,equal⟩ := (claimed datedCall writtenCall).1 collide
  exact absurd equal (by decide)

end

end KeyedCall
end OpenStock.Providers
