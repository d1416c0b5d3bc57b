import OpenStock.Providers.Credentials

namespace OpenStock.Providers.Credentials
open Text Substitution
open Workspaces.Redact (foldCase wordAt wordAt_iff)

/- The first three patterns share nothing with the marker. -/

section tokens
variable {first : Char} {word : Text} {steps : List Step} {last : Char → Bool}
  {starts : ∀ c, foldCase c = first → last c = true}

theorem token_matched (matched : Matched (token first word steps last starts) part) :
    ∃ category eaten rest, part = category ++ eaten ∧ category.map foldCase = first :: word ∧
      readSteps (steps ++ [.run last]) (eaten ++ rest) = some rest := by
  obtain ⟨before,kept,rest,found⟩ := matched
  obtain ⟨later,read,same⟩ := Option.map_eq_some_iff.mp found
  cases same
  obtain ⟨⟨category,body⟩,here,reads⟩ := Option.bind_eq_some_iff.mp read
  obtain ⟨whole,folded⟩ := wordAt_iff.mp here
  obtain ⟨eaten,split,_⟩ := steps_split reads
  dsimp only at split reads
  rw [split,← List.append_assoc] at whole
  exact ⟨category,eaten,rest,List.append_cancel_right whole,folded,by rw [← split]; exact reads⟩

theorem token_bare (matched : Matched (token first word steps last starts) part)
    (fixed : foldCase bracket = bracket) (other : bracket ∉ first :: word)
    (refused : (steps ++ [Step.run last]).any (fun step => step.allows bracket) = false) : bracket ∉ part := by
  obtain ⟨category,eaten,rest,rfl,folded,read⟩ := token_matched matched
  obtain ⟨again,whole,allowed⟩ := steps_split read
  obtain rfl := List.append_cancel_right whole
  intro inside
  rcases List.mem_append.mp inside with inWord | inRun
  · have listed := List.mem_map_of_mem (f := foldCase) inWord
    rw [fixed,folded] at listed
    exact other listed
  · rw [allowed bracket inRun] at refused
    cases refused

theorem token_loose {letter : Char} (listed : letter ∈ first :: word) (strange : ∀ c ∈ redacted, foldCase c ≠ letter)
    (brackets : '[' ∉ first :: word ∧ ']' ∉ first :: word)
    (refused : (steps ++ [Step.run last]).any (fun step => step.allows '[') = false ∧
      (steps ++ [Step.run last]).any (fun step => step.allows ']') = false) :
    Loose (token first word steps last starts) '[' "REDACTED".toList ']' where
  hides := by
    intro before text kept rest found
    obtain ⟨later,_,same⟩ := Option.map_eq_some_iff.mp found
    cases same
    rfl
  anywhere := by
    intro part matched before rest missed
    obtain ⟨category,eaten,other,rfl,folded,read⟩ := token_matched matched
    have missing := Option.map_eq_none_iff.mp missed
    have here := wordAt_iff.mpr ⟨List.append_assoc category eaten rest,folded⟩
    rw [findToken,here,Option.bind_some] at missing
    exact steps_anywhere read rest missing
  bare := by
    intro part matched
    exact ⟨token_bare matched (by decide) brackets.1 refused.1,token_bare matched (by decide) brackets.2 refused.2⟩
  strange := by
    intro part matched
    obtain ⟨category,eaten,rest,rfl,folded,_⟩ := token_matched matched
    rw [← folded] at listed
    obtain ⟨c,inside,same⟩ := List.mem_map.mp listed
    exact ⟨c,List.mem_append_left _ inside,fun marker => strange c marker same⟩

end tokens

theorem jwt_loose : Loose jwtPattern '[' "REDACTED".toList ']' :=
  @token_loose _ _ _ _ _ 'y' (by decide) (by simp [redacted,Workspaces.Redact.foldCase]) (by decide) (by decide)

theorem bearer_loose : Loose bearerPattern '[' "REDACTED".toList ']' :=
  @token_loose _ _ _ _ _ 'b' (by decide) (by simp [redacted,Workspaces.Redact.foldCase]) (by decide) (by decide)

theorem basic_loose : Loose basicPattern '[' "REDACTED".toList ']' :=
  @token_loose _ _ _ _ _ 'b' (by decide) (by simp [redacted,Workspaces.Redact.foldCase]) (by decide) (by decide)

/- A credential is found again where it stood, with the marker for a secret. -/

variable [UnicodeTable]

theorem credential_missed (unnamed : isNameChar c = false) (before : Option Char) (text : Text) :
    credentialPattern.find before (c :: text) = none := unnamed_missed unnamed

variable {before : Option Char}

theorem credential_hidden {text kept rest : Text} (found : credentialPattern.find before text = some (kept,rest)) :
    ∃ first hidden, isPlain first = true ∧ text = kept ++ (first :: hidden ++ rest) := by
  obtain ⟨_,_,secret,some',plain,whole,_⟩ := findCredential_iff.mp found
  obtain ⟨first,hidden,shape⟩ := List.exists_cons_of_ne_nil some'
  exact ⟨first,hidden,plain first (by simp [shape]),by rw [whole,shape]⟩

-- Behind a match comes what ends a secret, or nothing; so also after a replacement.
theorem after_credential {rest : Text} (ends : ∀ c ∈ rest.head?, isPlain c = false) (before : Option Char) :
    sub credentialPattern redacted before rest = sub credentialPattern redacted none rest ∧
      ∀ c ∈ (sub credentialPattern redacted none rest).head?, isPlain c = false := by
  cases rest with
  | nil => exact ⟨rfl,by simp⟩
  | cons c rest =>
    have stop : isPlain c = false := ends c rfl
    have unnamed := stop_unnamed stop
    rw [sub_missed (credential_missed unnamed before rest),sub_missed (credential_missed unnamed none rest)]
    refine ⟨rfl,?_⟩
    intro d head
    cases head
    exact stop

theorem credential_leaves : Leaves credentialPattern redacted [']'] where
  found := by
    intro before text kept rest found
    obtain ⟨boundary,group,_,_,_,_,ends⟩ := findCredential_iff.mp found
    apply findCredential_iff.mpr
    refine ⟨boundary,group,"[REDACTED".toList,by decide,List.all_eq_true.mp (by decide),rfl,?_⟩
    intro c head
    cases head
    decide
  missed := by
    intro before c text missed
    cases found : credentialPattern.find before (c :: sub credentialPattern redacted (some c) text) with
    | none => rfl
    | some hit =>
      obtain ⟨boundary,group,secret,some',plain,whole,_⟩ := findCredential_iff.mp found
      obtain ⟨next,tail,shape⟩ := List.exists_cons_of_ne_nil some'
      rw [← sub_missed missed,shape] at whole
      obtain ⟨first,later,split,solid⟩ := kept_head rfl credential_hidden (group_bare group) whole
      have plainFirst : isPlain first = true := by
        rcases solid with same | hides
        · rw [same]
          exact plain next (by simp [shape])
        · exact hides
      have present : findCredential before (c :: text) = some (hit.1,(first :: later).dropWhile isPlain) := by
        apply findCredential_iff.mpr
        refine ⟨boundary,group,(first :: later).takeWhile isPlain,by simp [plainFirst],
          fun d inside => List.mem_takeWhile_imp inside,?_,run_ends isPlain _⟩
        rw [List.takeWhile_append_dropWhile,split]
      exact absurd (missed.symm.trans present) (by simp)
  after := by
    intro before text kept rest found
    obtain ⟨_,_,_,_,_,_,ends⟩ := findCredential_iff.mp found
    have stop : isNameChar ']' = false := by decide
    rw [List.singleton_append,sub_missed (credential_missed stop none _),(after_credential (after_credential ends none).2 (some ']')).1]
    rfl

/- Texts. -/

variable (text : Text)

omit [UnicodeTable] in
theorem masked_clear : Clear jwtPattern (masked text) ∧ Clear bearerPattern (masked text) ∧ Clear basicPattern (masked text) :=
  ⟨clear_sub jwt_loose _ (clear_sub jwt_loose _ (clear_self jwt_loose text)),
    clear_sub bearer_loose _ (clear_self bearer_loose _),clear_self basic_loose _⟩

-- A second pass has only credentials to find.
theorem masked_redacted : masked (redact text) = redact text := by
  obtain ⟨jwt,bearer,basic⟩ := masked_clear text
  have jwtAfter : Clear jwtPattern (redact text) := by
    rw [redact_masked]
    exact clear_sub jwt_loose _ jwt
  have bearerAfter : Clear bearerPattern (redact text) := by
    rw [redact_masked]
    exact clear_sub bearer_loose _ bearer
  have basicAfter : Clear basicPattern (redact text) := by
    rw [redact_masked]
    exact clear_sub basic_loose _ basic
  rw [masked,clear_fixed jwtAfter,clear_fixed bearerAfter,clear_fixed basicAfter]

theorem redact_iff (text other : Text) : redact text = redact other ↔
    pieces credentialPattern none (masked text) = pieces credentialPattern none (masked other) := by
  rw [redact_masked,redact_masked]
  exact sub_iff credential_leaves none _ _

def Settled (text : Text) : Prop := hits credentialPattern none (masked text) = 0

theorem redact_twice : redact (redact text) = redact text ↔ Settled text := by
  rw [redact_masked (redact text),masked_redacted,redact_masked]
  exact twice_iff credential_leaves (by simp) none _

/- A credential without blanks, wherever it stands: another secret of plain characters
changes nothing. -/

section forms
omit [UnicodeTable]

theorem named_plain (named : isNameChar c = true) : isPlain c = true := by
  cases plain : isPlain c with
  | true => rfl
  | false =>
    rw [stop_unnamed plain] at named
    cases named

theorem mark_plain (marked : isMark c = true) : isPlain c = true := by
  simp only [isMark,Bool.or_eq_true,beq_iff_eq] at marked
  rcases marked with rfl | rfl <;> decide

-- After a mark a group has blanks only.
theorem group_mark {mark : Char} (group : Group kept) (split : kept = front ++ mark :: back)
    (marked : isMark mark = true) : ∀ c ∈ back, isSpace c = true := by
  obtain ⟨name,blanks,own,more,_,named,blank,_,later⟩ := group
  have early : mark ∉ name ++ blanks := by
    intro inside
    rcases List.mem_append.mp inside with inName | inBlanks
    · have unnamed := (mark_unnamed marked).1
      rw [named mark inName] at unnamed
      cases unnamed
    · have solid := (mark_unnamed marked).2
      rw [blank mark inBlanks] at solid
      cases solid
  rw [← List.append_assoc] at split
  rcases List.append_eq_append_iff.mp split with ⟨part,shape,tail⟩ | ⟨part,shape,tail⟩
  · cases part with
    | nil =>
      obtain ⟨_,rfl⟩ := List.cons.inj tail
      exact later
    | cons d part =>
      obtain ⟨_,behind⟩ := List.cons.inj tail
      have space := later mark (by simp [behind])
      rw [(mark_unnamed marked).2] at space
      cases space
  · cases part with
    | nil =>
      obtain ⟨_,rfl⟩ := List.cons.inj tail
      exact later
    | cons d part =>
      obtain ⟨rfl,_⟩ := List.cons.inj tail
      exact absurd (by simp [shape]) early

end forms

-- A word, a mark and a secret.
def written (before word : Text) (mark : Char) (secret after : Text) : Text := before ++ (word ++ mark :: (secret ++ after))

section form
variable {name secret other rest : Text} {mark : Char} (named : ∀ c ∈ name, isNameChar c = true) (marked : isMark mark = true)
  (some' : secret ≠ []) (plain : ∀ c ∈ secret, isPlain c = true) (someOther : other ≠ []) (plainOther : ∀ c ∈ other, isPlain c = true)
  (ends : ∀ c ∈ rest.head?, isPlain c = false)
include named marked some' plain someOther plainOther ends

-- A match in front of the form hides it, or ends before it.
theorem found_form (found : findCredential before (front ++ (name ++ mark :: (secret ++ rest))) = some (kept,later)) :
    ∃ behind, findCredential before (front ++ (name ++ mark :: (other ++ rest))) = some (kept,behind) ∧
      (later = behind ∨ ∃ last, last ≠ [] ∧ last.length < front.length ∧ last.getLast? = front.getLast? ∧
        later = last ++ (name ++ mark :: (secret ++ rest)) ∧ behind = last ++ (name ++ mark :: (other ++ rest))) := by
  obtain ⟨boundary,group,run,nonempty,plainRun,whole,endsLater⟩ := findCredential_iff.mp found
  have here : kept <+: (front ++ (name ++ [mark])) ++ (secret ++ rest) := ⟨run ++ later,by rw [← whole]; simp⟩
  rcases Substrings.prefix_append_cases here with inside | ⟨part,somePart,shape,follows⟩
  swap
  · -- the secret's first character is no blank, so no group reaches it
    obtain ⟨d,tail,rfl⟩ := List.exists_cons_of_ne_nil some'
    obtain ⟨e,more,rfl⟩ := List.exists_cons_of_ne_nil somePart
    have marks : kept = (front ++ name) ++ mark :: (e :: more) := by simp [shape]
    have blank := group_mark group marks marked e (by simp)
    rw [List.cons_append] at follows
    rw [(List.cons_prefix_cons.mp follows).1,plain_solid (plain d (by simp))] at blank
    cases blank
  obtain ⟨between,split⟩ := inside
  have joined : ∀ value, front ++ (name ++ mark :: value) = kept ++ (between ++ value) := by
    intro value
    rw [← List.append_assoc kept,split]
    simp
  have rests : between ++ (secret ++ rest) = run ++ later := by
    rw [joined] at whole
    exact List.append_cancel_left whole
  have laterShape : later = (between ++ (secret ++ rest)).dropWhile isPlain := by
    rw [rests]
    exact (run_exact plainRun endsLater).2.symm
  have again : findCredential before (front ++ (name ++ mark :: (other ++ rest))) =
      some (kept,(between ++ (other ++ rest)).dropWhile isPlain) := by
    apply findCredential_iff.mpr
    refine ⟨boundary,group,(between ++ (other ++ rest)).takeWhile isPlain,?_,fun c inside => List.mem_takeWhile_imp inside,?_,
      run_ends isPlain _⟩
    · obtain ⟨d,tail,rfl⟩ := List.exists_cons_of_ne_nil someOther
      obtain ⟨e,more,rfl⟩ := List.exists_cons_of_ne_nil nonempty
      cases between with
      | nil => simp [plainOther d (by simp)]
      | cons f between =>
        have same : f = e := (List.cons.inj rests).1
        simp [same,plainRun e (by simp)]
    · rw [List.takeWhile_append_dropWhile,joined]
  refine ⟨_,again,?_⟩
  have formPlain : ∀ c ∈ name ++ [mark], isPlain c = true := by
    intro c inside
    rcases List.mem_append.mp inside with inName | isMark
    · exact named_plain (named c inName)
    · rw [List.mem_singleton.mp isMark]
      exact mark_plain marked
  have hidden := run_ends isPlain between
  cases cut : between.dropWhile isPlain with
  | nil =>
    -- the run goes over the form
    have all : ∀ c ∈ between, isPlain c = true := List.dropWhile_eq_nil_iff.mp cut
    have skip : ∀ value : Text, (∀ c ∈ value, isPlain c = true) → (between ++ (value ++ rest)).dropWhile isPlain = rest := by
      intro value solid
      rw [← List.append_assoc]
      apply (run_exact _ ends).2
      intro c inside
      exact (List.mem_append.mp inside).elim (all c) (solid c)
    rw [laterShape,skip secret plain,skip other plainOther]
    exact .inl rfl
  | cons stop tail =>
    -- the run ends before the form
    rw [cut] at hidden
    have stopped : isPlain stop = false := hidden stop rfl
    have skip : ∀ value : Text, (between ++ value).dropWhile isPlain = stop :: tail ++ value := by
      intro value
      rw [List.dropWhile_append,cut]
      rfl
    have places : (kept ++ between.takeWhile isPlain) ++ (stop :: tail) = front ++ (name ++ [mark]) := by
      rw [List.append_assoc,← cut,List.takeWhile_append_dropWhile,split]
    rw [laterShape,skip,skip]
    apply Or.inr
    rcases List.append_eq_append_iff.mp places with ⟨last,shape,back⟩ | ⟨last,shape,back⟩
    · cases last with
      | nil =>
        have inForm : stop ∈ name ++ [mark] := by
          rw [List.nil_append] at back
          rw [← back]
          exact .head _
        rw [formPlain stop inForm] at stopped
        cases stopped
      | cons d last =>
        obtain ⟨head,more,start,_⟩ := group_head group
        refine ⟨d :: last,by simp,?_,?_,?_,?_⟩
        · rw [shape,start]
          simp only [List.length_append,List.length_cons]
          omega
        · rw [shape,List.getLast?_append_of_ne_nil _ (by simp)]
        · simp [back]
        · simp [back]
    · have inForm : stop ∈ name ++ [mark] := by
        rw [back]
        simp
      rw [formPlain stop inForm] at stopped
      cases stopped

theorem pieces_form (known : isCredentialName (name.map foldCase) = true) (front : Text) (before : Option Char)
    (boundary : (front.getLast?.or before).any isWordChar = false) :
    pieces credentialPattern before (written front name mark secret rest) =
      pieces credentialPattern before (written front name mark other rest) := by
  simp only [written]
  induction size : front.length using Nat.strongRecOn generalizing front before with
  | ind size ih =>
    subst size
    cases found : credentialPattern.find before (front ++ (name ++ mark :: (secret ++ rest))) with
    | some hit =>
      obtain ⟨kept,later⟩ := hit
      obtain ⟨behind,again,same⟩ := found_form named marked some' plain someOther plainOther ends found
      have second : credentialPattern.find before (front ++ (name ++ mark :: (other ++ rest))) = some (kept,behind) := again
      rw [pieces_found found,pieces_found second]
      rcases same with same | ⟨last,nonempty,less,tail,one,two⟩
      · rw [same]
      · obtain ⟨c,ended⟩ := Option.ne_none_iff_exists'.mp (show last.getLast? ≠ none by simpa using nonempty)
        have boundary' : (last.getLast?.or none).any isWordChar = false := by
          rw [← tail,ended] at boundary
          rw [ended]
          exact boundary
        rw [one,two,ih last.length less last none boundary' rfl]
    | none =>
      cases front with
      | nil =>
        have match' : findCredential before (name ++ mark :: (secret ++ rest)) = some (name ++ ([] ++ mark :: []),rest) := by
          apply findCredential_iff.mpr
          refine ⟨by simpa using boundary,.mk name [] mark [] known named (by simp) marked (by simp),secret,some',plain,?_,ends⟩
          simp
        exact absurd (found.symm.trans match') (by simp)
      | cons c front =>
        have missed : credentialPattern.find before ((c :: front) ++ (name ++ mark :: (other ++ rest))) = none := by
          cases again : credentialPattern.find before ((c :: front) ++ (name ++ mark :: (other ++ rest))) with
          | none => rfl
          | some hit =>
            obtain ⟨kept,later⟩ := hit
            obtain ⟨behind,present,_⟩ := found_form named marked someOther plainOther some' plain ends again
            exact absurd (found.symm.trans present) (by simp)
        rw [List.cons_append] at found missed
        rw [List.cons_append,List.cons_append,pieces_missed found,pieces_missed missed]
        have boundary' : (front.getLast?.or (some c)).any isWordChar = false := by
          rw [List.getLast?_cons] at boundary
          cases ended : front.getLast? with
          | none | some d => simpa [ended] using boundary
        rw [ih front.length (by simp) front (some c) boundary' rfl]

end form

theorem redact_marker : redact redacted = redacted := by
  have jwt : Clear jwtPattern redacted := fun _ matched => marker_free jwt_loose matched
  have bearer : Clear bearerPattern redacted := fun _ matched => marker_free bearer_loose matched
  have basic : Clear basicPattern redacted := fun _ matched => marker_free basic_loose matched
  rw [redact_masked,masked,clear_fixed jwt,clear_fixed bearer,clear_fixed basic]
  rfl

/- Dicts and lists. -/

-- Two versions of a structure that differ in values under sensitive keys only.
mutual
def Versions : Value → Value → Prop
  | .dict left,.dict right => VersionsMembers left right
  | .list left,.list right => VersionsItems left right
  | .tuple left,.tuple right => VersionsItems left right
  | left,right => left = right
def VersionsMembers : List (Text × Value) → List (Text × Value) → Prop
  | [],[] => True
  | (key,left) :: lefts,(other,right) :: rights =>
    key = other ∧ (isSensitiveKey key = true ∨ Versions left right) ∧ VersionsMembers lefts rights
  | _,_ => False
def VersionsItems : List Value → List Value → Prop
  | [],[] => True
  | left :: lefts,right :: rights => Versions left right ∧ VersionsItems lefts rights
  | _,_ => False
end

mutual
theorem versions_field : ∀ (left right : Value) (depth : Nat), Versions left right →
    redactField true depth left = redactField true depth right
  | .dict left,right,depth,same => by
    cases right with
    | dict right =>
      simp only [Versions] at same
      simp only [redactField,versions_members left right (depth + 1) same,if_true]
    | _ => simp [Versions] at same
  | .list left,right,depth,same => by
    cases right with
    | list right =>
      simp only [Versions] at same
      simp only [redactField,versions_items left right (depth + 1) same,if_true]
    | _ => simp [Versions] at same
  | .tuple left,right,depth,same => by
    cases right with
    | tuple right =>
      simp only [Versions] at same
      simp only [redactField,versions_items left right (depth + 1) same,if_true]
    | _ => simp [Versions] at same
  | .none,_,_,same | .bool _,_,_,same | .int _,_,_,same | .float _,_,_,same | .str _,_,_,same | .object _ _,_,_,same
  | .unserialisable _,_,_,same => by
    simp only [Versions] at same
    rw [same]
theorem versions_members : ∀ (lefts rights : List (Text × Value)) (depth : Nat), VersionsMembers lefts rights →
    redactMembers true depth lefts = redactMembers true depth rights
  | [],[],_,_ => rfl
  | [],_ :: _,_,same => same.elim
  | _ :: _,[],_,same => same.elim
  | (key,left) :: lefts,(other,right) :: rights,depth,same => by
    obtain ⟨rfl,here,later⟩ := same
    rw [redactMembers,redactMembers,versions_members lefts rights depth later]
    rcases here with sensitive | versions
    · rw [if_pos sensitive,if_pos sensitive]
    · rw [versions_field left right depth versions]
theorem versions_items : ∀ (lefts rights : List Value) (depth : Nat), VersionsItems lefts rights →
    redactItems depth lefts = redactItems depth rights
  | [],[],_,_ => rfl
  | [],_ :: _,_,same => same.elim
  | _ :: _,[],_,same => same.elim
  | left :: lefts,right :: rights,depth,same => by
    rw [redactItems,redactItems,versions_field left right depth same.1,versions_items lefts rights depth same.2]
end

-- The strings that the walk over a structure hands to `redact`.
mutual
def visible (deep : Bool) (depth : Nat) : Value → List Text
  | .dict members => if deep ∧ depth + 1 ≤ maxRedactionDepth then visibleMembers deep (depth + 1) members else []
  | .list items => if deep ∧ depth + 1 ≤ maxRedactionDepth then visibleItems (depth + 1) items else []
  | .tuple items => if deep ∧ depth + 1 ≤ maxRedactionDepth then visibleItems (depth + 1) items else []
  | .str text => [text]
  | _ => []
def visibleMembers (deep : Bool) (depth : Nat) : List (Text × Value) → List Text
  | [] => []
  | (key,value) :: members => (if isSensitiveKey key then [] else visible deep depth value) ++ visibleMembers deep depth members
def visibleItems (depth : Nat) : List Value → List Text
  | [] => []
  | item :: items => visible true depth item ++ visibleItems depth items
end

mutual
theorem field_twice : ∀ (value : Value) (deep : Bool) (depth : Nat),
    redactField deep depth (redactField deep depth value) = redactField deep depth value ↔
      ∀ text ∈ visible deep depth value, Settled text
  | .dict members,deep,depth => by
    have inner := members_twice members deep (depth + 1)
    cases deep with
    | false => simp [redactField,visible]
    | true =>
      by_cases cut : depth + 1 > maxRedactionDepth
      · simp [redactField,visible,cut,Nat.not_le.mpr cut]
      · simp [redactField,visible,cut,Nat.not_lt.mp cut,inner]
  | .list items,deep,depth | .tuple items,deep,depth => by
    have inner := items_twice items (depth + 1)
    cases deep with
    | false => simp [redactField,visible]
    | true =>
      by_cases cut : depth + 1 > maxRedactionDepth
      · simp [redactField,visible,cut,Nat.not_le.mpr cut]
      · simp [redactField,visible,cut,Nat.not_lt.mp cut,inner]
  | .str text,deep,depth => by simp [redactField,visible,redact_twice]
  | .none,deep,depth | .bool _,deep,depth | .int _,deep,depth | .float _,deep,depth | .object _ _,deep,depth
  | .unserialisable _,deep,depth => by
    by_cases cut : (deep && decide (depth ≥ maxRedactionDepth)) = true
    · simp only [redactField,visible,if_pos cut,redact_marker]
      simp
    · simp only [redactField,visible,if_neg cut]
      simp
theorem members_twice : ∀ (members : List (Text × Value)) (deep : Bool) (depth : Nat),
    redactMembers deep depth (redactMembers deep depth members) = redactMembers deep depth members ↔
      ∀ text ∈ visibleMembers deep depth members, Settled text
  | [],_,_ => by simp [redactMembers,visibleMembers]
  | (key,value) :: members,deep,depth => by
    have here := field_twice value deep depth
    have later := members_twice members deep depth
    by_cases sensitive : isSensitiveKey key = true
    · simp [redactMembers,visibleMembers,sensitive,later]
    · simp [redactMembers,visibleMembers,sensitive,later,here,or_imp,forall_and]
theorem items_twice : ∀ (items : List Value) (depth : Nat),
    redactItems depth (redactItems depth items) = redactItems depth items ↔ ∀ text ∈ visibleItems depth items, Settled text
  | [],_ => by simp [redactItems,visibleItems]
  | item :: items,depth => by
    have here := field_twice item true depth
    have later := items_twice items depth
    simp [redactItems,visibleItems,here,later,or_imp,forall_and]
end

theorem dict_twice (deep : Bool) (data : List (Text × Value)) :
    redactDict deep 0 (redactDict deep 0 data) = redactDict deep 0 data ↔ ∀ text ∈ visibleMembers deep 0 data, Settled text := by
  have shallow : ¬ 0 > maxRedactionDepth := by decide
  simp only [redactDict,if_neg shallow]
  exact members_twice data deep 0

-- Where the first three patterns replace nothing, a plain secret behind a name at the
-- start of a word does not show.
theorem written_hidden {before name secret other after : Text} {mark : Char}
    (known : isCredentialName (name.map foldCase) = true) (named : ∀ c ∈ name, isNameChar c = true) (marked : isMark mark = true)
    (boundary : before.getLast?.any isWordChar = false) (some' : secret ≠ []) (plain : ∀ c ∈ secret, isPlain c = true)
    (someOther : other ≠ []) (plainOther : ∀ c ∈ other, isPlain c = true) (ends : ∀ c ∈ after.head?, isPlain c = false)
    (first : masked (written before name mark secret after) = written before name mark secret after)
    (second : masked (written before name mark other after) = written before name mark other after) :
    redact (written before name mark secret after) = redact (written before name mark other after) := by
  rw [redact_iff,first,second]
  apply pieces_form named marked some' plain someOther plainOther ends known before none
  simpa using boundary

section
omit [UnicodeTable]

-- With JSON quotes; and a bearer token.
def inQuotes (before word : Text) (mark : Char) (secret after : Text) : Text :=
  before ++ '"' :: (word ++ '"' :: mark :: '"' :: (secret ++ '"' :: after))

def bearing (before secret after : Text) : Text := before ++ ("Bearer ".toList ++ (secret ++ after))

def isToken68 (secret : Text) : Bool :=
  let body := secret.takeWhile (fun c => c.isAlphanum || c ∈ "-._~+/".toList)
  body ≠ [] && (secret.drop body.length).all (fun c => c == '=')

def IsSecret (secret : Text) : Prop := secret ≠ [] ∧ ∀ c ∈ secret, isSpace c = false

abbrev asciiTable : UnicodeTable := ⟨Char.isAlphanum⟩

end

end OpenStock.Providers.Credentials
