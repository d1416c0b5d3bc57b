import Mathlib.Data.Char
import Mathlib.Data.List.Lex
import Mathlib.Tactic

namespace OpenStock

-- A Python `str` that is taken apart, normalized or encoded is kept as its
-- code points. Opaque identifiers and messages stay `String`.
abbrev Text := List Char

instance textLawful : LawfulBEq Text := inferInstance

instance optionTextLawful : LawfulBEq (Option Text) := inferInstance

end OpenStock

namespace OpenStock.Text

variable {c : Char} {text : Text}

-- The code points for which `str.isspace` holds; `str.strip` removes these.
def isSpace (c : Char) : Bool :=
  let code := c.toNat
  (9 ≤ code && code ≤ 13) || (28 ≤ code && code ≤ 32) || code == 133 || code == 160 ||
    code == 5760 || (8192 ≤ code && code ≤ 8202) || code == 8232 || code == 8233 ||
    code == 8239 || code == 8287 || code == 12288

def stripLeft (text : Text) : Text := text.dropWhile isSpace

def strip (text : Text) : Text := (stripLeft (stripLeft text).reverse).reverse

-- Exact on ASCII and on every other code point whose full uppercase mapping is
-- ASCII. The remaining code points keep a non-ASCII character when uppercased,
-- so no pattern of this development tells them from their mapping.
def upperChar (c : Char) : Text :=
  if c.isLower then [Char.ofNat (c.toNat - 32)] else
  match c.toNat with
  | 0xDF => ['S','S']
  | 0x131 => ['I']
  | 0x17F => ['S']
  | 0xFB00 => ['F','F']
  | 0xFB01 => ['F','I']
  | 0xFB02 => ['F','L']
  | 0xFB03 => ['F','F','I']
  | 0xFB04 => ['F','F','L']
  | 0xFB05 => ['S','T']
  | 0xFB06 => ['S','T']
  | _ => [c]

def upper (text : Text) : Text := text.flatMap upperChar

-- Exact on ASCII and on the code points whose lowercase mapping has an ASCII letter.
def lowerPoint (c : Char) : Text :=
  if c.isUpper then [Char.ofNat (c.toNat + 32)] else
  match c.toNat with
  | 0x130 => ['i',Char.ofNat 0x307]
  | 0x212A => ['k']
  | _ => [c]

def lower (text : Text) : Text := text.flatMap lowerPoint

/- The database's TRIM removes space separators only, and its UPPER and LOWER map
one code point to one. -/

def isSeparator (c : Char) : Bool :=
  let code := c.toNat
  code == 32 || code == 160 || code == 5760 || (8192 ≤ code && code ≤ 8202) || code == 8239 || code == 8287 || code == 12288

def sqlTrim (text : Text) : Text := ((text.dropWhile isSeparator).reverse.dropWhile isSeparator).reverse

def sqlUpper (text : Text) : Text :=
  text.map (fun c => if c.isLower then Char.ofNat (c.toNat - 32) else if c.toNat = 0x131 then 'I' else
    if c.toNat = 0x17F then 'S' else c)

def sqlLower (text : Text) : Text :=
  text.map (fun c => if c.isUpper then Char.ofNat (c.toNat + 32) else if c.toNat = 0x130 then 'i' else
    if c.toNat = 0x212A then 'k' else c)

-- `re.fullmatch` of one leading class followed by at most `limit` characters of
-- a second class.
def identifier (first rest : Char → Bool) (limit : Nat) : Text → Bool
  | [] => false
  | c :: tail => first c && tail.all rest && decide (tail.length ≤ limit)

-- Size of the UTF-8 encoding.
def encodedLength (text : Text) : Nat := (text.map Char.utf8Size).sum

theorem stripLeft_clean (clean : ∀ c ∈ text, isSpace c = false) : stripLeft text = text := by
  cases text with
  | nil => rfl
  | cons c tail => simp [stripLeft,clean c]

theorem strip_clean (clean : ∀ c ∈ text, isSpace c = false) : strip text = text := by
  have reversed : ∀ c ∈ text.reverse, isSpace c = false := fun c member => clean c (by simpa using member)
  rw [strip,stripLeft_clean clean,stripLeft_clean reversed,List.reverse_reverse]

theorem upper_fixed (fixed : ∀ c ∈ text, upperChar c = [c]) : upper text = text := by
  induction text with
  | nil => rfl
  | cons c tail ih =>
    have rest := ih (fun d member => fixed d (by simp [member]))
    simp only [upper] at rest
    simp [upper,fixed c,rest]

theorem upper_range (letter : c.isUpper = true) : 65 ≤ c.toNat ∧ c.toNat ≤ 90 := by
  have bounds : 'A'.val ≤ c.val ∧ c.val ≤ 'Z'.val := of_decide_eq_true letter
  simpa [UInt32.le_iff_toNat_le,← Char.toNat_val] using bounds

theorem lower_range (letter : c.isLower = true) : 97 ≤ c.toNat ∧ c.toNat ≤ 122 := by
  have bounds : (decide ('a'.val ≤ c.val) && decide (c.val ≤ 'z'.val)) = true := letter
  simpa [UInt32.le_iff_toNat_le,← Char.toNat_val] using bounds

theorem alpha_cases : c.isAlpha = true ↔ c.isUpper = true ∨ c.isLower = true := by
  have shape : c.isAlpha = (c.isUpper || c.isLower) := rfl
  simp only [shape,Bool.or_eq_true]

theorem alphanum_cases : c.isAlphanum = true ↔ (c.isUpper = true ∨ c.isLower = true) ∨ c.isDigit = true := by
  have shape : c.isAlphanum = (c.isAlpha || c.isDigit) := rfl
  simp only [shape,Bool.or_eq_true,alpha_cases]

theorem digit_range (digit : c.isDigit = true) : 48 ≤ c.toNat ∧ c.toNat ≤ 57 := by
  simpa [Char.isDigit,UInt32.le_iff_toNat_le,← Char.toNat_val] using digit

theorem alphanum_range (letter : c.isAlphanum = true) : 48 ≤ c.toNat ∧ c.toNat ≤ 122 := by
  rcases alphanum_cases.mp letter with (upper | lower) | digit
  · have bound := upper_range upper
    omega
  · have bound := lower_range lower
    omega
  · have bound := digit_range digit
    omega

theorem alphanum_clean (letter : c.isAlphanum = true) : isSpace c = false := by
  have range := alphanum_range letter
  simp only [isSpace,Bool.or_eq_false_iff,Bool.and_eq_false_iff,decide_eq_false_iff_not,
    beq_eq_false_iff_ne]
  omega

theorem upperChar_fixed (plain : c.isUpper = true ∨ c.isDigit = true) : upperChar c = [c] := by
  have range : 48 ≤ c.toNat ∧ c.toNat ≤ 90 := by
    rcases plain with letter | digit
    · have bound := upper_range letter; omega
    · have bound := digit_range digit; omega
  have notLower : ¬ c.isLower = true := fun lower => by have bound := lower_range lower; omega
  rw [upperChar,if_neg notLower]
  split
  all_goals first | rfl | omega

theorem upperChar_twice (c : Char) : upper (upperChar c) = upperChar c := by
  by_cases lower : c.isLower = true
  · have range := lower_range lower
    have capitals : ∀ code < 91, 65 ≤ code → (Char.ofNat code).isUpper = true := by decide
    have capital := capitals (c.toNat - 32) (by omega) (by omega)
    rw [upperChar,if_pos lower]
    apply upper_fixed
    intro d inside
    rw [List.mem_singleton.mp inside]
    exact upperChar_fixed (.inl capital)
  · by_cases plain : upperChar c = [c]
    · rw [plain]
      exact upper_fixed (fun d inside => by rw [List.mem_singleton.mp inside,plain])
    · rw [upperChar,if_neg lower] at plain ⊢
      split
      all_goals first | rfl | skip
      split at plain
      all_goals contradiction

theorem upper_upper (text : Text) : upper (upper text) = upper text := by
  have each : ∀ c, (upperChar c).flatMap upperChar = upperChar c := upperChar_twice
  simp only [upper,List.flatMap_assoc,each]

theorem identifier_members (matched : identifier first rest limit text = true) :
    ∀ c ∈ text, first c = true ∨ rest c = true := by
  cases text with
  | nil => simp
  | cons c tail =>
    simp only [identifier,Bool.and_eq_true,List.all_eq_true] at matched
    intro d member
    rcases List.mem_cons.mp member with rfl | later
    · exact .inl matched.1.1
    · exact .inr (matched.1.2 d later)

theorem identifier_length (matched : identifier first rest limit text = true) : text.length ≤ limit + 1 := by
  cases text with
  | nil => simp
  | cons c tail =>
    simp only [identifier,Bool.and_eq_true,decide_eq_true_eq] at matched
    simpa using matched.2

theorem encodedLength_append (left right : Text) :
    encodedLength (left ++ right) = encodedLength left + encodedLength right := by
  simp [encodedLength]

end OpenStock.Text
