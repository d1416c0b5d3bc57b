import Mathlib.Data.List.TakeWhile
import OpenStock.Foundations.Substitution
import OpenStock.Providers.Cache
import OpenStock.Workspaces.Redaction

namespace OpenStock.Providers.Credentials
open Text Substitution
open Workspaces.Redact (foldCase wordAt wordAt_iff)

/- A word, compared as `re.IGNORECASE` does, and what follows it: runs of characters of a
class, and single characters. A run is not empty and ends where the class does; none of
the patterns goes on with a character of the class it has just run over. -/

inductive Step where
  | run (accepts : Char → Bool)
  | one (character : Char)

def Step.read : Step → Text → Option Text
  | .run accepts,text => if text.takeWhile accepts = [] then none else some (text.dropWhile accepts)
  | .one _,[] => none
  | .one character,c :: text => if c = character then some text else none

def Step.allows : Step → Char → Bool
  | .run accepts,c => accepts c
  | .one character,c => c = character

def readSteps : List Step → Text → Option Text
  | [],text => some text
  | step :: steps,text => (step.read text).bind (readSteps steps)

def findToken (word : Text) (steps : List Step) (text : Text) : Option Text :=
  (wordAt word text).bind (fun hit => readSteps steps hit.2)

theorem run_ends (accepts : Char → Bool) (text : Text) : ∀ c ∈ (text.dropWhile accepts).head?, accepts c = false := by
  induction text with
  | nil => simp
  | cons c text ih =>
    cases accepted : accepts c with
    | true => simpa [List.dropWhile_cons_of_pos accepted] using ih
    | false => simp [accepted]

theorem run_exact {accepts : Char → Bool} {run rest : Text} (inside : ∀ c ∈ run, accepts c = true)
    (ends : ∀ c ∈ rest.head?, accepts c = false) :
    (run ++ rest).takeWhile accepts = run ∧ (run ++ rest).dropWhile accepts = rest := by
  rw [List.takeWhile_append_of_pos inside,List.dropWhile_append_of_pos inside]
  cases rest with
  | nil => simp
  | cons c rest => simp [ends c rfl]

variable {text rest : Text} {step : Step}

theorem read_split (read : step.read text = some rest) :
    ∃ eaten, eaten ≠ [] ∧ text = eaten ++ rest ∧ ∀ c ∈ eaten, step.allows c = true := by
  cases step with
  | run accepts =>
    simp only [Step.read] at read
    split at read
    · cases read
    · rename_i some'
      cases read
      refine ⟨text.takeWhile accepts,some',List.takeWhile_append_dropWhile.symm,?_⟩
      intro c inside
      exact List.mem_takeWhile_imp inside
  | one character =>
    cases text with
    | nil => cases read
    | cons c text =>
      simp only [Step.read] at read
      split at read
      · rename_i same
        cases read
        exact ⟨[c],by simp,rfl,by simp [Step.allows,same]⟩
      · cases read

variable {steps : List Step}

theorem steps_split (read : readSteps steps text = some rest) :
    ∃ eaten, text = eaten ++ rest ∧ ∀ c ∈ eaten, steps.any (fun step => step.allows c) = true := by
  induction steps generalizing text with
  | nil =>
    cases read
    exact ⟨[],rfl,by simp⟩
  | cons step steps ih =>
    obtain ⟨middle,first,later⟩ := Option.bind_eq_some_iff.mp read
    obtain ⟨eaten,_,here,allowed⟩ := read_split first
    obtain ⟨more,there,others⟩ := ih later
    refine ⟨eaten ++ more,by rw [here,there,List.append_assoc],?_⟩
    intro c inside
    rcases List.mem_append.mp inside with early | late
    · simp [allowed c early]
    · simp [others c late]

theorem steps_shorter (read : readSteps steps text = some rest) (some' : steps ≠ []) : rest.length < text.length := by
  cases steps with
  | nil => exact absurd rfl some'
  | cons step steps =>
    obtain ⟨middle,first,later⟩ := Option.bind_eq_some_iff.mp read
    obtain ⟨eaten,nonempty,here,_⟩ := read_split first
    obtain ⟨more,there,_⟩ := steps_split later
    have positive := List.length_pos_iff.mpr nonempty
    rw [here,there]
    simp only [List.length_append]
    omega

-- What a step reads, it reads whatever stands behind; and as far, when the next
-- character is the same.
theorem read_anywhere (read : step.read (eaten ++ middle) = some middle) (other : Text) :
    step.read (eaten ++ other) ≠ none ∧ (other.head? = middle.head? → step.read (eaten ++ other) = some other) := by
  obtain ⟨same,nonempty,whole,allowed⟩ := read_split read
  obtain rfl := List.append_cancel_right whole
  cases step with
  | run accepts =>
    obtain ⟨c,tail,shape⟩ := List.exists_cons_of_ne_nil nonempty
    have accepted : accepts c = true := allowed c (by simp [shape])
    have reads : ∀ text, (eaten ++ text).takeWhile accepts ≠ [] := by
      intro text
      simp [shape,accepted]
    simp only [Step.read,if_neg (reads other),if_neg (reads middle),Option.some.injEq] at read ⊢
    refine ⟨by simp,?_⟩
    intro next
    apply (run_exact allowed _).2
    rw [next,← read]
    exact run_ends accepts _
  | one character =>
    obtain ⟨c,tail,shape⟩ := List.exists_cons_of_ne_nil nonempty
    have same : c = character := by simpa [Step.allows] using allowed c (by simp [shape])
    subst shape same
    simp only [Step.read,List.cons_append,if_true,Option.some.injEq] at read ⊢
    have empty : tail = [] := by simpa using congrArg List.length read
    simp [empty]

theorem steps_anywhere {part rest : Text} (read : readSteps steps (part ++ rest) = some rest) (other : Text) :
    readSteps steps (part ++ other) ≠ none := by
  induction steps generalizing part with
  | nil => simp [readSteps]
  | cons step steps ih =>
    obtain ⟨middle,first,later⟩ := Option.bind_eq_some_iff.mp read
    obtain ⟨eaten,_,here,_⟩ := read_split first
    obtain ⟨more,there,_⟩ := steps_split later
    have shape : part = eaten ++ more := by
      rw [there,← List.append_assoc] at here
      exact List.append_cancel_right here
    subst shape there
    rw [List.append_assoc] at first ⊢
    obtain ⟨found,exactly⟩ := read_anywhere first (more ++ other)
    by_cases empty : more = []
    · have none' : steps = [] := by
        by_contra some'
        have less := steps_shorter later some'
        simp [empty] at less
      simpa [readSteps,none'] using found
    · obtain ⟨c,tail,split⟩ := List.exists_cons_of_ne_nil empty
      rw [readSteps,exactly (by simp [split])]
      exact ih later

variable {last : Char → Bool}

theorem steps_ended (read : readSteps (steps ++ [.run last]) text = some rest) : ∀ c ∈ rest.head?, last c = false := by
  induction steps generalizing text with
  | nil =>
    obtain ⟨middle,first,later⟩ := Option.bind_eq_some_iff.mp read
    cases later
    simp only [Step.read] at first
    split at first
    · cases first
    · cases first
      exact run_ends last text
  | cons step steps ih =>
    obtain ⟨middle,_,later⟩ := Option.bind_eq_some_iff.mp read
    exact ih later

variable {first : Char}

-- A word with a last class that its first letter belongs to.
theorem word_head {word text category rest : Text} (found : wordAt (first :: word) text = some (category,rest)) :
    ∃ c tail, text = c :: tail ∧ foldCase c = first := by
  obtain ⟨whole,same⟩ := wordAt_iff.mp found
  cases category with
  | nil => cases same
  | cons c category =>
    rw [List.map_cons] at same
    exact ⟨c,category ++ rest,whole,(List.cons.inj same).1⟩

variable {word : Text}

theorem token_split (found : findToken word steps text = some rest) :
    ∃ category eaten, text = category ++ (eaten ++ rest) ∧ category.map foldCase = word ∧
      ∀ c ∈ eaten, steps.any (fun step => step.allows c) = true := by
  obtain ⟨⟨category,body⟩,here,read⟩ := Option.bind_eq_some_iff.mp found
  obtain ⟨whole,same⟩ := wordAt_iff.mp here
  obtain ⟨eaten,split,allowed⟩ := steps_split read
  dsimp only at split
  exact ⟨category,eaten,by rw [whole,split],same,allowed⟩

theorem token_head
    (found : findToken (first :: word) steps text = some rest) : ∃ c tail, text = c :: tail ∧ foldCase c = first := by
  obtain ⟨⟨category,body⟩,here,_⟩ := Option.bind_eq_some_iff.mp found
  exact word_head here

theorem token_ended (found : findToken word (steps ++ [.run last]) text = some rest) : ∀ c ∈ rest.head?, last c = false := by
  obtain ⟨⟨category,body⟩,_,read⟩ := Option.bind_eq_some_iff.mp found
  exact steps_ended read

def token (first : Char) (word : Text) (steps : List Step) (last : Char → Bool) (starts : ∀ c, foldCase c = first → last c = true) :
    Pattern Char where
  find _ text := (findToken (first :: word) (steps ++ [.run last]) text).map (fun rest => ([],rest))
  splits := by
    intro before text kept rest found
    obtain ⟨later,read,same⟩ := Option.map_eq_some_iff.mp found
    cases same
    obtain ⟨category,eaten,whole,folded,_⟩ := token_split read
    refine ⟨category ++ eaten,?_,by rw [whole,List.append_assoc,List.nil_append]⟩
    intro empty
    rw [(List.append_eq_nil_iff.mp empty).1] at folded
    cases folded
  ended := by
    intro before text kept rest found other
    obtain ⟨later,read,same⟩ := Option.map_eq_some_iff.mp found
    cases same
    rw [Option.map_eq_none_iff]
    cases again : findToken (first :: word) (steps ++ [.run last]) rest with
    | none => rfl
    | some more =>
      obtain ⟨c,tail,shape,folded⟩ := token_head again
      have refused := token_ended read c (by rw [shape]; rfl)
      rw [starts c folded] at refused
      cases refused

/- The four patterns. -/

-- `[A-Za-z0-9]`.
def isAsciiName (c : Char) : Bool := (foldCase c).isLower || c.isDigit

-- `[A-Za-z0-9_\-]`.
def isSegment (c : Char) : Bool := isAsciiName c || c == '_' || c == '-'

-- `[A-Za-z0-9\._\-]`.
def isBearer (c : Char) : Bool := isSegment c || c == '.'

-- `[A-Za-z0-9+/=]`.
def isBasic (c : Char) : Bool := isAsciiName c || c == '+' || c == '/' || c == '='

theorem lower_segment (letter : first.isLower = true) (c : Char) (folded : foldCase c = first) : isSegment c = true := by
  simp [isSegment,isAsciiName,folded,letter]

def jwtPattern : Pattern Char :=
  token 'e' "yj".toList [.run isSegment,.one '.',.run isSegment,.one '.'] isSegment (lower_segment (by decide))

def bearerPattern : Pattern Char :=
  token 'b' "earer".toList [.run isSpace] isBearer (fun c folded => by simp [isBearer,lower_segment (by decide) c folded])

def basicPattern : Pattern Char :=
  token 'b' "asic".toList [.run isSpace] isBasic (fun c folded => by simp [isBasic,isAsciiName,folded])

-- The alternatives of the credential pattern, each `_?` and `s?` written out.
def credentialWords : List Text :=
  ["apikey","api_key","accesskey","access_key","accesstoken","access_token","authtoken","auth_token","clientsecret",
    "client_secret","privatekey","private_key","refreshtoken","refresh_token","sessiontoken","session_token","token",
    "password","passwd","secret","authorization","cookie","credential","credentials"].map String.toList

def isNameChar (c : Char) : Bool := isAsciiName c || c == '_'

-- `(?:[a-z0-9]+_)*`, of a text of such characters and underscores.
def isQualifier (text : Text) : Bool :=
  let parts := text.splitOn '_'
  parts.getLast? == some [] && parts.dropLast.all (fun part => !part.isEmpty)

-- The qualifiers and one of the words, of a folded name.
def isCredentialName (name : Text) : Bool :=
  credentialWords.any (fun word => word.isSuffixOf name && isQualifier (name.take (name.length - word.length)))

def isMark (c : Char) : Bool := c == '=' || c == ':'

-- `[^\s,;}\]]`.
def isPlain (c : Char) : Bool := !(isSpace c || c == ',' || c == ';' || c == '}' || c == ']')

-- `\s*[:=]\s*`, and the text behind.
def separator (text : Text) : Option (Text × Text) :=
  match text.dropWhile isSpace with
  | [] => none
  | mark :: rest =>
    if isMark mark then some (text.takeWhile isSpace ++ mark :: rest.takeWhile isSpace,rest.dropWhile isSpace) else none

-- `str.isalnum` of one character: `\b` asks for it before the name.
class UnicodeTable where
  isAlnum : Char → Bool

variable [UnicodeTable]

def isWordChar (c : Char) : Bool := UnicodeTable.isAlnum c || c == '_'

-- A name ends where its letters, digits and underscores do, since a blank or a mark must
-- follow; so there is one way to match, and a match starts at the first of them.
def findCredential (before : Option Char) (text : Text) : Option (Text × Text) :=
  let name := text.takeWhile isNameChar
  if isCredentialName (name.map foldCase) && !before.any isWordChar then
    match separator (text.dropWhile isNameChar) with
    | none => none
    | some (gap,value) =>
      if value.takeWhile isPlain = [] then none else some (name ++ gap,value.dropWhile isPlain)
  else none

-- What is kept of a credential: the group of the pattern.
inductive Group : Text → Prop where
  | mk (name blanks : Text) (mark : Char) (more : Text) (known : isCredentialName (name.map foldCase) = true)
      (named : ∀ c ∈ name, isNameChar c = true) (blank : ∀ c ∈ blanks, isSpace c = true) (marked : isMark mark = true)
      (later : ∀ c ∈ more, isSpace c = true) : Group (name ++ (blanks ++ mark :: more))

section classes
omit [UnicodeTable]

theorem space_unnamed (space : isSpace c = true) : isNameChar c = false := by
  have fixed := Workspaces.Redact.foldCase_fixed (.inl space)
  cases named : isNameChar c with
  | false => rfl
  | true =>
    simp only [isSpace,Bool.or_eq_true,Bool.and_eq_true,decide_eq_true_eq,beq_iff_eq] at space
    simp only [isNameChar,isAsciiName,fixed,Bool.or_eq_true,beq_iff_eq] at named
    rcases named with (letter | digit) | rfl
    · have range := lower_range letter
      omega
    · have range := digit_range digit
      omega
    · revert space
      decide

theorem mark_unnamed (mark : isMark c = true) : isNameChar c = false ∧ isSpace c = false := by
  simp only [isMark,Bool.or_eq_true,beq_iff_eq] at mark
  rcases mark with rfl | rfl <;> decide

theorem plain_solid (plain : isPlain c = true) : isSpace c = false := by
  cases space : isSpace c with
  | false => rfl
  | true => simp [isPlain,space] at plain

-- What ends a secret is in no name.
theorem stop_unnamed (stop : isPlain c = false) : isNameChar c = false := by
  simp only [isPlain,Bool.not_eq_false',Bool.or_eq_true,beq_iff_eq] at stop
  rcases stop with (((space | rfl) | rfl) | rfl) | rfl
  · exact space_unnamed space
  all_goals decide

theorem name_nonempty (known : isCredentialName (name.map foldCase) = true) : name ≠ [] := by
  intro empty
  subst empty
  exact absurd known (by decide)

theorem group_head (group : Group kept) : ∃ c tail, kept = c :: tail ∧ isNameChar c = true := by
  obtain ⟨name,blanks,mark,more,known,named,_,_,_⟩ := group
  obtain ⟨c,tail,shape⟩ := List.exists_cons_of_ne_nil (name_nonempty known)
  exact ⟨c,tail ++ (blanks ++ mark :: more),by rw [shape]; rfl,named c (by simp [shape])⟩

-- No bracket is kept.
theorem group_bare {kept : Text} (group : Group kept) : '[' ∉ kept := by
  intro inside
  obtain ⟨name,blanks,mark,more,_,named,blank,marked,later⟩ := group
  simp only [List.mem_append,List.mem_cons] at inside
  rcases inside with inName | inBlanks | isMark | inMore
  · exact absurd (named _ inName) (by decide)
  · exact absurd (blank _ inBlanks) (by decide)
  · rw [← isMark] at marked
    exact absurd marked (by decide)
  · exact absurd (later _ inMore) (by decide)

theorem separator_iff {text gap value : Text} : separator text = some (gap,value) ↔
    ∃ blanks mark more, gap = blanks ++ mark :: more ∧ text = gap ++ value ∧ (∀ c ∈ blanks, isSpace c = true) ∧
      isMark mark = true ∧ (∀ c ∈ more, isSpace c = true) ∧ ∀ c ∈ value.head?, isSpace c = false := by
  constructor
  · intro found
    unfold separator at found
    cases shape : text.dropWhile isSpace with
    | nil => rw [shape] at found; cases found
    | cons mark rest =>
      rw [shape] at found
      dsimp only at found
      split at found
      · rename_i marked
        cases found
        have whole : text = text.takeWhile isSpace ++ mark :: rest := by
          rw [← shape,List.takeWhile_append_dropWhile]
        refine ⟨_,mark,_,rfl,?_,fun c inside => List.mem_takeWhile_imp inside,marked,
          fun c inside => List.mem_takeWhile_imp inside,run_ends isSpace rest⟩
        rw [List.append_assoc,List.cons_append,List.takeWhile_append_dropWhile]
        exact whole
      · cases found
  · intro ⟨blanks,mark,more,gapShape,whole,blank,marked,later,ends⟩
    subst gapShape whole
    have first := @run_exact _ _ (mark :: (more ++ value)) blank (by simpa using (mark_unnamed marked).2)
    have second := run_exact later ends
    rw [List.append_assoc,List.cons_append]
    simp only [separator,first.1,first.2,second.1,second.2,marked,if_true]

end classes

variable {before : Option Char}

theorem findCredential_iff {text kept rest : Text} : findCredential before text = some (kept,rest) ↔
    before.any isWordChar = false ∧ Group kept ∧
      ∃ secret, secret ≠ [] ∧ (∀ c ∈ secret, isPlain c = true) ∧ text = kept ++ (secret ++ rest) ∧
        ∀ c ∈ rest.head?, isPlain c = false := by
  constructor
  · intro found
    simp only [findCredential] at found
    split at found
    · rename_i checked
      obtain ⟨known,boundary⟩ := Bool.and_eq_true_iff.mp checked
      cases gap : separator (text.dropWhile isNameChar) with
      | none => rw [gap] at found; cases found
      | some hit =>
        obtain ⟨between,value⟩ := hit
        rw [gap] at found
        dsimp only at found
        split at found
        · cases found
        · rename_i some'
          cases found
          obtain ⟨blanks,mark,more,rfl,whole,blank,marked,later,_⟩ := separator_iff.mp gap
          refine ⟨by simpa using boundary,
            .mk _ blanks mark more known (fun c inside => List.mem_takeWhile_imp inside) blank marked later,
            value.takeWhile isPlain,some',fun c inside => List.mem_takeWhile_imp inside,?_,run_ends isPlain value⟩
          rw [List.takeWhile_append_dropWhile,List.append_assoc,← whole,List.takeWhile_append_dropWhile]
    · cases found
  · intro ⟨boundary,⟨name,blanks,mark,more,known,named,blank,marked,later⟩,secret,some',plain,whole,ends⟩
    obtain ⟨first,tail,shape⟩ := List.exists_cons_of_ne_nil some'
    have gap : separator (blanks ++ mark :: more ++ (secret ++ rest)) = some (blanks ++ mark :: more,secret ++ rest) := by
      apply separator_iff.mpr
      refine ⟨blanks,mark,more,rfl,rfl,blank,marked,later,?_⟩
      rw [shape]
      intro c head
      cases head
      exact plain_solid (plain first (by simp [shape]))
    have names := @run_exact _ _ (blanks ++ mark :: more ++ (secret ++ rest)) named (by
      intro c head
      cases blanks with
      | nil =>
        cases head
        exact (mark_unnamed marked).1
      | cons d blanks =>
        cases head
        exact space_unnamed (blank c (by simp)))
    have secrets := run_exact plain ends
    rw [whole,List.append_assoc,findCredential]
    simp only [names.1,names.2,known,boundary,gap,secrets.1,secrets.2,if_neg some']
    simp

theorem unnamed_missed {text : Text} (unnamed : isNameChar c = false) : findCredential before (c :: text) = none := by
  cases found : findCredential before (c :: text) with
  | none => rfl
  | some hit =>
    obtain ⟨_,group,_,_,_,whole,_⟩ := findCredential_iff.mp found
    obtain ⟨d,tail,shape,named⟩ := group_head group
    rw [shape,List.cons_append] at whole
    rw [← (List.cons.inj whole).1,unnamed] at named
    cases named

def credentialPattern : Pattern Char where
  find := findCredential
  splits := by
    intro before text kept rest found
    obtain ⟨_,_,secret,some',_,whole,_⟩ := findCredential_iff.mp found
    exact ⟨secret,some',whole⟩
  ended := by
    intro before text kept rest found other
    obtain ⟨_,_,_,_,_,_,ends⟩ := findCredential_iff.mp found
    cases rest with
    | nil => rfl
    | cons c rest => exact unnamed_missed (stop_unnamed (ends c rfl))

def redacted : Text := '[' :: ("REDACTED".toList ++ [']'])

def sensitivePatterns : List (Pattern Char) := [jwtPattern,bearerPattern,basicPattern,credentialPattern]

def redact (value : Text) : Text := sensitivePatterns.foldl (fun result pattern => sub pattern redacted none result) value

-- A text without its JWTs, bearer tokens and basic credentials.
def masked (value : Text) : Text :=
  sub basicPattern redacted none (sub bearerPattern redacted none (sub jwtPattern redacted none value))

theorem redact_masked (value : Text) : redact value = sub credentialPattern redacted none (masked value) := by
  simp only [redact,sensitivePatterns,List.foldl_cons,List.foldl_nil,masked]

/- Dicts and lists. -/

def sensitiveKeys : List Text :=
  ["token","access_token","refresh_token","api_key","apikey","password","passwd","secret","authorization","bearer","cookie",
    "session_id","otp_session","otpsession","credential","private_key"].map String.toList

def isSensitiveKey (key : Text) : Bool :=
  let normalized := ((lower (strip key)).map (fun c => if c = '-' then '_' else c)).map (fun c => if c = '.' then '_' else c)
  sensitiveKeys.contains normalized || sensitiveKeys.any (fun sensitive => ('_' :: sensitive).isSuffixOf normalized)

def maxRedactionDepth : Nat := 10

-- `redactField` is what `redact_dict` does with a value under a plain key, and with
-- `deep` what `_redact_list` does with an item, at the depth of the dict or list.
mutual
def redactField (deep : Bool) (depth : Nat) : Value → Value
  | .dict members =>
    if deep then
      .dict (if depth + 1 > maxRedactionDepth then [("redacted".toList,.str redacted)] else redactMembers deep (depth + 1) members)
    else .dict members
  | .list items =>
    if deep then .list (if depth + 1 > maxRedactionDepth then [.str redacted] else redactItems (depth + 1) items)
    else .list items
  | .tuple items =>
    if deep then .list (if depth + 1 > maxRedactionDepth then [.str redacted] else redactItems (depth + 1) items)
    else .tuple items
  | .str text => .str (redact text)
  | value => if deep && depth ≥ maxRedactionDepth then .str redacted else value
def redactMembers (deep : Bool) (depth : Nat) : List (Text × Value) → List (Text × Value)
  | [] => []
  | (key,value) :: members =>
    (key,if isSensitiveKey key then .str redacted else redactField deep depth value) :: redactMembers deep depth members
def redactItems (depth : Nat) : List Value → List Value
  | [] => []
  | item :: items => redactField true depth item :: redactItems depth items
end

def redactDict (deep : Bool) (depth : Nat) (data : List (Text × Value)) : List (Text × Value) :=
  if depth > maxRedactionDepth then [("redacted".toList,.str redacted)] else redactMembers deep depth data

end OpenStock.Providers.Credentials
