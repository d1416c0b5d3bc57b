import OpenStock.Foundations.JsonLayout
import OpenStock.Foundations.Replacement

namespace OpenStock.Workspaces.Redact
open Text Replacement

/- Texts: the pattern of a sensitive word, a separator and a credential. -/

-- How `re.IGNORECASE` compares a character of a `str` with a small letter.
def foldCase (c : Char) : Char :=
  if c.isUpper then Char.ofNat (c.toNat + 32) else
  match c.toNat with
  | 0x130 => 'i'
  | 0x131 => 'i'
  | 0x17F => 's'
  | 0x212A => 'k'
  | _ => c

-- The alternatives of the category, each `[_-]?` written out.
def sensitiveWords : List Text :=
  ["password","token","secret","api_key","api-key","apikey","authorization","bearer","private_key","private-key",
    "privatekey","access_key","access-key","accesskey","passwd"].map String.toList

def wordAt (word text : Text) : Option (Text × Text) :=
  if (text.take word.length).map foldCase = word then some (text.take word.length,text.drop word.length) else none

def isMark (c : Char) : Bool := c == '=' || c == ':'

def isVisible (c : Char) : Bool := !isSpace c

-- `\s*[=:]\s*\S+`: the text after one run of characters that are not blank.
def afterCredential (text : Text) : Option Text :=
  match text.dropWhile isSpace with
  | [] => none
  | mark :: rest =>
    if isMark mark ∧ rest.dropWhile isSpace ≠ [] then some ((rest.dropWhile isSpace).dropWhile isVisible) else none

def secretAfter (word text : Text) : Option (Text × Text) :=
  (wordAt word text).bind (fun hit => (afterCredential hit.2).map (fun rest => (hit.1,rest)))

def findSecret (text : Text) : Option (Text × Text) := sensitiveWords.findSome? (fun word => secretAfter word text)

def redacted : Text := "[REDACTED]".toList

theorem words_apart : ∀ word ∈ sensitiveWords, ∀ other ∈ sensitiveWords,
    word <+: other ∨ word <:+ other → word = other := by decide

-- No word has a character that the rest of the pattern could start with.
theorem words_plain : ∀ word ∈ sensitiveWords, word ≠ [] ∧ ∀ c ∈ word, isSpace c = false ∧ isMark c = false := by
  intro word known
  have checked : ∀ word ∈ sensitiveWords, word ≠ [] ∧ word.all (fun c => !isSpace c && !isMark c) = true := by decide
  obtain ⟨nonempty,plain⟩ := checked word known
  refine ⟨nonempty,?_⟩
  intro c inside
  simpa using List.all_eq_true.mp plain c inside

theorem foldCase_fixed (blank : isSpace c = true ∨ isMark c = true) : foldCase c = c := by
  have code : c.toNat ≤ 64 ∨ c.toNat = 133 ∨ c.toNat = 160 ∨ (5760 ≤ c.toNat ∧ c.toNat ≤ 8287) ∨ c.toNat = 12288 := by
    rcases blank with space | mark
    · simp only [isSpace,Bool.or_eq_true,Bool.and_eq_true,decide_eq_true_eq,beq_iff_eq] at space
      omega
    · simp only [isMark,Bool.or_eq_true,beq_iff_eq] at mark
      rcases mark with rfl | rfl <;> decide
  have small : ¬ c.isUpper = true := by
    intro upper
    have range := upper_range upper
    omega
  rw [foldCase,if_neg small]
  split
  all_goals first | rfl | omega

theorem category_plain (known : category.map foldCase ∈ sensitiveWords) :
    category ≠ [] ∧ ∀ c ∈ category, isSpace c = false ∧ isMark c = false := by
  obtain ⟨nonempty,plain⟩ := words_plain _ known
  refine ⟨by simpa using nonempty,?_⟩
  intro c inside
  obtain ⟨notSpace,notMark⟩ := plain (foldCase c) (List.mem_map_of_mem inside)
  constructor
  · cases space : isSpace c with
    | false => rfl
    | true => rw [foldCase_fixed (.inl space),space] at notSpace; cases notSpace
  · cases mark : isMark c with
    | false => rfl
    | true => rw [foldCase_fixed (.inr mark),mark] at notMark; cases notMark

theorem wordAt_iff : wordAt word text = some (category,rest) ↔ text = category ++ rest ∧ category.map foldCase = word := by
  unfold wordAt
  constructor
  · intro found
    split at found
    · rename_i same
      cases found
      exact ⟨(List.take_append_drop _ _).symm,same⟩
    · cases found
  · intro found
    obtain ⟨rfl,rfl⟩ := found
    simp

theorem secretAfter_iff : secretAfter word text = some (category,rest) ↔
    category.map foldCase = word ∧ ∃ body, text = category ++ body ∧ afterCredential body = some rest := by
  unfold secretAfter
  rw [Option.bind_eq_some_iff]
  constructor
  · intro found
    obtain ⟨⟨front,body⟩,here,after⟩ := found
    obtain ⟨later,read,same⟩ := Option.map_eq_some_iff.mp after
    cases same
    obtain ⟨split,word⟩ := wordAt_iff.mp here
    exact ⟨word,body,split,read⟩
  · intro found
    obtain ⟨word,body,split,read⟩ := found
    exact ⟨(category,body),wordAt_iff.mpr ⟨split,word⟩,by rw [read]; rfl⟩

-- At most one word stands at the head of a text.
theorem category_unique {category second body rest : Text} (known : category.map foldCase ∈ sensitiveWords) (other : second.map foldCase ∈ sensitiveWords)
    (same : category ++ body = second ++ rest) : category = second ∧ body = rest := by
  have equal : category.length = second.length := by
    rcases List.append_eq_append_iff.mp same with ⟨more,longer,_⟩ | ⟨more,longer,_⟩
    · have ahead : category.map foldCase <+: second.map foldCase := by rw [longer,List.map_append]; exact List.prefix_append _ _
      have words := words_apart _ known _ other (.inl ahead)
      simpa using congrArg List.length words
    · have ahead : second.map foldCase <+: category.map foldCase := by rw [longer,List.map_append]; exact List.prefix_append _ _
      have words := words_apart _ other _ known (.inl ahead)
      simpa using (congrArg List.length words).symm
  exact List.append_inj same equal

theorem findSecret_iff {text category rest : Text} : findSecret text = some (category,rest) ↔
    category.map foldCase ∈ sensitiveWords ∧ ∃ body, text = category ++ body ∧ afterCredential body = some rest := by
  constructor
  · intro found
    obtain ⟨word,member,here⟩ := List.exists_of_findSome?_eq_some found
    obtain ⟨same,rests⟩ := secretAfter_iff.mp here
    exact ⟨by rw [same]; exact member,rests⟩
  · intro found
    obtain ⟨known,body,split,read⟩ := found
    cases first : findSecret text with
    | none =>
      have absent := List.findSome?_eq_none_iff.mp first (category.map foldCase) known
      have present := secretAfter_iff.mpr ⟨rfl,body,split,read⟩
      exact absurd (present.symm.trans absent) (by simp)
    | some hit =>
      obtain ⟨second,later⟩ := hit
      obtain ⟨word,member,here⟩ := List.exists_of_findSome?_eq_some first
      obtain ⟨same,other,shape,read'⟩ := secretAfter_iff.mp here
      rw [← same] at member
      obtain ⟨rfl,rfl⟩ := category_unique member known (shape.symm.trans split)
      rw [read] at read'
      rw [Option.some.inj read']

theorem afterCredential_shorter (found : afterCredential text = some rest) : rest.length < text.length := by
  unfold afterCredential at found
  have dropped := (List.dropWhile_suffix (l := text) isSpace).length_le
  cases shape : text.dropWhile isSpace with
  | nil => rw [shape] at found; cases found
  | cons mark after =>
    rw [shape] at found dropped
    dsimp only at found
    split at found
    · cases found
      have first := (List.dropWhile_suffix (l := after) isSpace).length_le
      have second := (List.dropWhile_suffix (l := after.dropWhile isSpace) isVisible).length_le
      rw [List.length_cons] at dropped
      omega
    · cases found

def secrets : Pattern Char Text where
  find := findSecret
  cover category := category ++ '=' :: redacted
  shorter found := by
    obtain ⟨_,body,rfl,read⟩ := findSecret_iff.mp found
    have less := afterCredential_shorter read
    rw [List.length_append]
    omega
  visible := by simp

structure RedactedValue where
  text : Text
  status : Text
  matchedCategories : List Text

def redactText (text : Text) : Text := replaceAll secrets text

def redactWorkspaceText (text : Text) : RedactedValue where
  text := redactText text
  status := "redacted".toList
  matchedCategories := ((captures secrets text).map (fun category =>
    (lower category).map (fun c => if c = '-' then '_' else c))).eraseDups

/- A redacted text has its matches where the text had them. -/

theorem find_apart (blank : isSpace c = true ∨ isMark c = true) : findSecret (c :: text) = none := by
  cases found : findSecret (c :: text) with
  | none => rfl
  | some hit =>
    obtain ⟨known,body,split,_⟩ := findSecret_iff.mp found
    obtain ⟨nonempty,plain⟩ := category_plain known
    cases shape : hit.1 with
    | nil => exact absurd shape nonempty
    | cons first category =>
      rw [shape,List.cons_append] at split
      obtain ⟨notSpace,notMark⟩ := plain first (by simp [shape])
      rw [← (List.cons.inj split).1] at notSpace notMark
      rcases blank with space | mark
      · rw [space] at notSpace; cases notSpace
      · rw [mark] at notMark; cases notMark

theorem redactText_apart (blank : isSpace c = true ∨ isMark c = true) :
    redactText (c :: text) = c :: redactText text := replaceAll_missed (find_apart blank)

-- The head of a redacted text is the head of the text.
theorem redactText_head (c : Char) (text : Text) : ∃ tail, redactText (c :: text) = c :: tail := by
  cases found : findSecret (c :: text) with
  | none => exact ⟨_,replaceAll_missed found⟩
  | some hit =>
    obtain ⟨known,body,split,_⟩ := findSecret_iff.mp found
    cases shape : hit.1 with
    | nil => exact absurd shape (category_plain known).1
    | cons first category =>
      rw [shape,List.cons_append] at split
      have replaced : redactText (c :: text) = (hit.1 ++ '=' :: redacted) ++ redactText hit.2 :=
        @replaceAll_found Char Text secrets _ _ _ found
      rw [replaced,shape,(List.cons.inj split).1]
      exact ⟨_,rfl⟩

theorem redactText_skip (text : Text) : (redactText text).dropWhile isSpace = redactText (text.dropWhile isSpace) := by
  induction text with
  | nil => rfl
  | cons c text ih =>
    cases space : isSpace c with
    | true => rw [redactText_apart (.inl space),List.dropWhile_cons_of_pos space,List.dropWhile_cons_of_pos space,ih]
    | false =>
      obtain ⟨tail,shape⟩ := redactText_head c text
      have visible : ¬ isSpace c = true := by simp [space]
      rw [List.dropWhile_cons_of_neg visible,shape,List.dropWhile_cons_of_neg visible]

theorem redactText_visible (ends : text.dropWhile isVisible = text) :
    (redactText text).dropWhile isVisible = redactText text := by
  cases text with
  | nil => rfl
  | cons c text =>
    have space : isSpace c = true := by
      cases blank : isSpace c with
      | true => rfl
      | false =>
        rw [List.dropWhile_cons_of_pos (by simp [isVisible,blank])] at ends
        have shorter := (List.dropWhile_suffix (l := text) isVisible).length_le
        rw [ends,List.length_cons] at shorter
        omega
    rw [redactText_apart (.inl space),List.dropWhile_cons_of_neg (by simp [isVisible,space])]

theorem dropWhile_again (text : Text) : (text.dropWhile isVisible).dropWhile isVisible = text.dropWhile isVisible := by
  induction text with
  | nil => rfl
  | cons c text ih =>
    cases visible : isVisible c with
    | true => rw [List.dropWhile_cons_of_pos visible,ih]
    | false =>
      have blank : ¬ isVisible c = true := by simp [visible]
      rw [List.dropWhile_cons_of_neg blank,List.dropWhile_cons_of_neg blank]

theorem afterCredential_ends (found : afterCredential text = some rest) : rest.dropWhile isVisible = rest := by
  unfold afterCredential at found
  split at found
  · cases found
  · split at found
    · cases found
      exact dropWhile_again _
    · cases found

theorem afterCredential_cover (ends : rest.dropWhile isVisible = rest) :
    afterCredential ('=' :: redacted ++ rest) = some rest := by
  have shape : redacted = '[' :: redacted.tail := by decide
  have hidden : (redacted ++ rest).dropWhile isVisible = rest := by
    rw [List.dropWhile_append_of_pos (List.all_eq_true.mp (by decide)),ends]
  have visible : (redacted ++ rest).dropWhile isSpace = redacted ++ rest := by
    rw [shape,List.cons_append]
    exact List.dropWhile_cons_of_neg (by decide)
  have blank : ('=' :: redacted ++ rest).dropWhile isSpace = '=' :: (redacted ++ rest) :=
    List.dropWhile_cons_of_neg (by decide)
  have some' : redacted ++ rest ≠ [] := by
    rw [shape]
    exact List.cons_ne_nil _ _
  rw [afterCredential,blank]
  dsimp only
  rw [visible,hidden,if_pos ⟨rfl,some'⟩]

-- Whether a credential follows does not depend on what is redacted after it.
theorem afterCredential_redacted (found : (afterCredential (redactText text)).isSome) : (afterCredential text).isSome := by
  unfold afterCredential at found ⊢
  rw [redactText_skip] at found
  cases shape : text.dropWhile isSpace with
  | nil => rw [shape] at found; cases found
  | cons mark rest =>
    rw [shape] at found
    dsimp only
    cases separator : isMark mark with
    | true =>
      rw [redactText_apart (.inr separator)] at found
      dsimp only at found
      rw [redactText_skip] at found
      by_cases empty : rest.dropWhile isSpace = []
      · rw [empty] at found
        exact absurd found (by simp [redactText])
      · rw [if_pos ⟨rfl,empty⟩]
        rfl
    | false =>
      obtain ⟨tail,head⟩ := redactText_head mark rest
      rw [head] at found
      simp [separator] at found

-- A run of plain characters at the head of a redacted text stood in the text,
-- unless it ends inside the category of a match.
theorem kept_or_cut (text : Text) (plain : ∀ c ∈ kept, isMark c = false)
    (split : redactText text = kept ++ more) : (∃ rest, text = kept ++ rest ∧ more = redactText rest) ∨
      ∃ before front left later, kept = before ++ front ∧ front ≠ [] ∧
        (front ++ left).map foldCase ∈ sensitiveWords ∧ more = left ++ '=' :: later := by
  induction text using @pieces_induction Char Text secrets generalizing kept with
  | nil =>
    obtain ⟨rfl,rfl⟩ := List.append_eq_nil_iff.mp split.symm
    exact .inl ⟨[],rfl,rfl⟩
  | missed c text missed ih =>
    cases kept with
    | nil => exact .inl ⟨c :: text,rfl,split.symm⟩
    | cons d kept =>
      have shape : redactText (c :: text) = c :: redactText text := replaceAll_missed missed
      rw [shape] at split
      obtain ⟨rfl,rest⟩ := List.cons.inj split
      rcases ih (fun e inside => plain e (by simp [inside])) rest with ⟨later,rfl,same⟩ | cut
      · exact .inl ⟨later,rfl,same⟩
      · obtain ⟨before,front,left,later,rfl,whole⟩ := cut
        exact .inr ⟨c :: before,front,left,later,rfl,whole⟩
  | found text category rest found ih =>
    cases kept with
    | nil => exact .inl ⟨text,rfl,split.symm⟩
    | cons d kept =>
      obtain ⟨known,_⟩ := findSecret_iff.mp found
      have shape : redactText text = (category ++ '=' :: redacted) ++ redactText rest :=
        @replaceAll_found Char Text secrets _ _ _ found
      rw [shape,List.append_assoc] at split
      rcases List.append_eq_append_iff.mp split with ⟨extra,longer,tail⟩ | ⟨left,shorter,tail⟩
      · cases extra with
        | nil =>
          rw [List.append_nil] at longer
          refine .inr ⟨[],d :: kept,[],redacted ++ redactText rest,rfl,by simp,?_,?_⟩
          · rw [List.append_nil,longer]
            exact known
          · simpa using tail.symm
        | cons mark extra =>
          have equal : '=' = mark := (List.cons.inj tail).1
          have inside := plain '=' (by rw [longer,← equal]; simp)
          cases inside
      · refine .inr ⟨[],d :: kept,left,redacted ++ redactText rest,rfl,by simp,?_,?_⟩
        · rw [← shorter]
          exact known
        · simpa using tail

theorem secrets_found (found : findSecret text = some (category,rest)) :
    findSecret ((category ++ '=' :: redacted) ++ redactText rest) = some (category,redactText rest) := by
  obtain ⟨known,body,_,read⟩ := findSecret_iff.mp found
  apply findSecret_iff.mpr
  refine ⟨known,'=' :: redacted ++ redactText rest,by simp,?_⟩
  exact afterCredential_cover (redactText_visible (afterCredential_ends read))

theorem afterCredential_plain (plain : isSpace c = false ∧ isMark c = false) : afterCredential (c :: text) = none := by
  have visible : ¬ isSpace c = true := by simp [plain.1]
  rw [afterCredential,List.dropWhile_cons_of_neg visible]
  simp [plain.2]

theorem secrets_missed (missed : findSecret (c :: text) = none) : findSecret (c :: redactText text) = none := by
  cases found : findSecret (c :: redactText text) with
  | none => rfl
  | some hit =>
    obtain ⟨category,rest⟩ := hit
    obtain ⟨known,body,split,read⟩ := findSecret_iff.mp found
    obtain ⟨nonempty,plain⟩ := category_plain known
    cases category with
    | nil => exact absurd rfl nonempty
    | cons first category =>
      obtain ⟨rfl,tails⟩ := List.cons.inj split
      rcases kept_or_cut text (fun d inside => (plain d (by simp [inside])).2) tails with
        ⟨later,rfl,same⟩ | ⟨before,front,left,later,rfl,some',inner,same⟩
      · -- the word stood in the text, so a credential followed it there
        have follows : (afterCredential later).isSome := by
          apply afterCredential_redacted
          rw [← same,read]
          rfl
        obtain ⟨ends,here⟩ := Option.isSome_iff_exists.mp follows
        have present := findSecret_iff.mpr ⟨known,later,rfl,here⟩
        exact absurd (present.symm.trans missed) (by simp)
      · cases left with
        | nil =>
          -- the word would end in a shorter one
          rw [List.append_nil] at inner
          have behind : front.map foldCase <:+ (c :: (before ++ front)).map foldCase := by
            rw [← List.cons_append,List.map_append]
            exact List.suffix_append _ _
          have words := words_apart _ inner _ known (.inr behind)
          have sizes := congrArg List.length words
          simp at sizes
          omega
        | cons d left =>
          have inside := (category_plain inner).2 d (by simp)
          rw [same,List.cons_append,afterCredential_plain inside] at read
          cases read

theorem secrets_stable : Stable secrets where
  found found := secrets_found found
  missed missed := secrets_missed missed

theorem redactText_twice (text : Text) : redactText (redactText text) = redactText text := replaced_twice secrets_stable text

-- Two texts that differ only in the credentials that are replaced.
abbrev AlikeText (left right : Text) : Prop := Alike secrets left right

theorem redactText_iff (left right : Text) : redactText left = redactText right ↔ AlikeText left right :=
  replaced_iff secrets_stable left right

/- Mappings: strings under a sensitive key, texts, nested dicts, the strings of lists. -/

def sensitiveKeyParts : List Text :=
  ["password","token","secret","api_key","apikey","authorization","bearer","private_key","access_key",
    "passwd"].map String.toList

def isSensitive (key : Text) : Bool := sensitiveKeyParts.any (fun part => decide (part <:+: lower key))

def redactItem : Json → Json
  | .str text => .str (redactText text)
  | item => item

mutual
def redactValue : Bool → Json → Json
  | sensitive,.str text => .str (if sensitive then redacted else redactText text)
  | _,.obj members => .obj (redactWorkspaceMapping members)
  | _,.arr items => .arr (items.map redactItem)
  | _,value => value
def redactWorkspaceMapping : List (Text × Json) → List (Text × Json)
  | [] => []
  | (key,value) :: members => (key,redactValue (isSensitive key) value) :: redactWorkspaceMapping members
end

variable (members : List (Text × Json))

theorem redactWorkspaceMapping_map : redactWorkspaceMapping members =
      members.map (fun member => (member.1,redactValue (isSensitive member.1) member.2)) := by
  induction members with
  | nil => rfl
  | cons member members ih => rw [List.map_cons,redactWorkspaceMapping,ih]

theorem redactItem_twice (item : Json) : redactItem (redactItem item) = redactItem item := by
  cases item with
  | str text => rw [redactItem,redactItem,redactText_twice]
  | _ => rfl

mutual
theorem redactValue_twice : ∀ (sensitive : Bool) (value : Json),
    redactValue sensitive (redactValue sensitive value) = redactValue sensitive value
  | true,.str _ => rfl
  | false,.str text => by simp [redactValue,redactText_twice]
  | _,.obj members => by
    rw [redactValue,redactValue,redactMapping_twice members]
  | _,.arr items => by
    have each : items.map (redactItem ∘ redactItem) = items.map redactItem :=
      List.map_congr_left (fun item _ => redactItem_twice item)
    simp [redactValue,each]
  | _,.null | _,.bool _ | _,.int _ | _,.float _ => rfl
theorem redactMapping_twice : ∀ members : List (Text × Json),
    redactWorkspaceMapping (redactWorkspaceMapping members) = redactWorkspaceMapping members
  | [] => rfl
  | (key,value) :: members => by
    rw [redactWorkspaceMapping,redactWorkspaceMapping,redactValue_twice (isSensitive key) value,redactMapping_twice members]
end

def AlikeItem : Json → Json → Prop
  | .str left,.str right => AlikeText left right
  | left,right => left = right

-- Two values that differ in what is replaced only.
mutual
def AlikeValue : Bool → Json → Json → Prop
  | sensitive,.str left,.str right => sensitive = true ∨ AlikeText left right
  | _,.arr left,.arr right => List.Forall₂ AlikeItem left right
  | _,.obj left,.obj right => AlikeMembers left right
  | _,left,right => left = right
def AlikeMembers : List (Text × Json) → List (Text × Json) → Prop
  | [],[] => True
  | (key,left) :: lefts,(other,right) :: rights =>
      key = other ∧ AlikeValue (isSensitive key) left right ∧ AlikeMembers lefts rights
  | _,_ => False
end

theorem redactItem_iff (left right : Json) : redactItem left = redactItem right ↔ AlikeItem left right := by
  cases left <;> cases right <;> simp [redactItem,AlikeItem,redactText_iff]

mutual
theorem redactValue_iff : ∀ (sensitive : Bool) (left right : Json),
    redactValue sensitive left = redactValue sensitive right ↔ AlikeValue sensitive left right
  | sensitive,.str left,right => by
    cases sensitive <;> cases right <;> simp [redactValue,AlikeValue,redactText_iff]
  | sensitive,.arr left,right => by
    cases right with
    | arr right =>
      have each : left.map redactItem = right.map redactItem ↔ List.Forall₂ AlikeItem left right := by
        rw [← List.forall₂_eq_eq_eq,List.forall₂_map_left_iff,List.forall₂_map_right_iff]
        simp only [redactItem_iff]
      simp [redactValue,AlikeValue,each]
    | _ => cases sensitive <;> simp [redactValue,AlikeValue]
  | sensitive,.obj left,right => by
    cases right with
    | obj right => simp [redactValue,AlikeValue,redactMapping_iff left right]
    | _ => cases sensitive <;> simp [redactValue,AlikeValue]
  | sensitive,.null,right | sensitive,.bool _,right | sensitive,.int _,right | sensitive,.float _,right => by
    cases sensitive <;> cases right <;> simp [redactValue,AlikeValue]
theorem redactMapping_iff : ∀ left right : List (Text × Json),
    redactWorkspaceMapping left = redactWorkspaceMapping right ↔ AlikeMembers left right
  | [],[] => by simp [AlikeMembers]
  | [],(_,_) :: _ | (_,_) :: _,[] => by simp [redactWorkspaceMapping,AlikeMembers]
  | (key,left) :: lefts,(other,right) :: rights => by
    simp only [redactWorkspaceMapping,AlikeMembers,List.cons.injEq,Prod.mk.injEq,redactMapping_iff lefts rights,and_assoc]
    constructor
    · intro same
      obtain ⟨rfl,values,rests⟩ := same
      exact ⟨rfl,(redactValue_iff _ left right).mp values,rests⟩
    · intro same
      obtain ⟨rfl,values,rests⟩ := same
      exact ⟨rfl,(redactValue_iff _ left right).mpr values,rests⟩
end

/- Redaction keeps keys, so it does not matter whether they are sorted before or after. -/

theorem redactItem_sorted (item : Json) : redactItem (Json.sortKeys item) = Json.sortKeys (redactItem item) := by
  cases item <;> rfl

theorem redactMapping_insertion : redactWorkspaceMapping (members.insertionSort Json.keyBefore) =
      (redactWorkspaceMapping members).insertionSort Json.keyBefore := by
  rw [redactWorkspaceMapping_map,redactWorkspaceMapping_map]
  exact List.map_insertionSort Json.keyBefore Json.keyBefore _ _ (fun _ _ _ _ => Iff.rfl)

mutual
theorem redactValue_sorted : ∀ (sensitive : Bool) (value : Json),
    redactValue sensitive (Json.sortKeys value) = Json.sortKeys (redactValue sensitive value)
  | _,.str _ | _,.null | _,.bool _ | _,.int _ | _,.float _ => rfl
  | _,.arr items => by
    simp only [redactValue,Json.sortKeys,Json.sortItems_map,List.map_map]
    congr 1
    exact List.map_congr_left (fun item _ => redactItem_sorted item)
  | _,.obj members => by
    rw [Json.sortKeys,redactValue,redactValue,Json.sortKeys,redactMapping_insertion,redactMapping_sorted members]
theorem redactMapping_sorted : ∀ members : List (Text × Json),
    redactWorkspaceMapping (Json.sortMembers members) = Json.sortMembers (redactWorkspaceMapping members)
  | [] => rfl
  | (key,value) :: members => by
    rw [Json.sortMembers,redactWorkspaceMapping,redactWorkspaceMapping,Json.sortMembers,redactValue_sorted _ value,
      redactMapping_sorted members]
end

end OpenStock.Workspaces.Redact
