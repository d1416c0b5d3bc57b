import OpenStock.Workspaces.Documents

namespace OpenStock.Workspaces.Documents
open Redact

/- Two versions of a text or a dict that differ in their secrets only. -/

def IsSeparator (text : Text) : Prop :=
  ∃ before mark after, text = before ++ mark :: after ∧ (∀ c ∈ before ++ after, Text.isSpace c = true) ∧ isMark mark = true

def IsCredential (text : Text) : Prop := text ≠ [] ∧ ∀ c ∈ text, Text.isSpace c = false

section versions
variable (scheme : Text → Prop)

-- Nothing, or a scheme word and the blanks after it.
def IsScheme (text : Text) : Prop :=
  text = [] ∨ ∃ word gap, text = word ++ gap ∧ scheme word ∧ gap ≠ [] ∧ ∀ c ∈ gap, Text.isSpace c = true

inductive SecretTexts : Text → Text → Prop where
  | nil : SecretTexts [] []
  | kept (c : Char) (rest : SecretTexts left right) : SecretTexts (c :: left) (c :: right)
  | secret (known : word.map foldCase ∈ sensitiveWords) (separated : IsSeparator separator) (introduced : IsScheme scheme lead)
      (first : IsCredential credential) (second : IsCredential other) (rest : SecretTexts left right) :
      SecretTexts (word ++ separator ++ lead ++ credential ++ left) (word ++ separator ++ lead ++ other ++ right)

-- Under a key that counts as sensitive stands any value.
mutual
def SecretValues (sensitive : Text → Bool) : Json → Json → Prop
  | .str left,.str right => SecretTexts scheme left right
  | .arr left,.arr right => SecretItems sensitive left right
  | .obj left,.obj right => SecretMembers sensitive left right
  | left,right => left = right
def SecretItems (sensitive : Text → Bool) : List Json → List Json → Prop
  | [],[] => True
  | left :: lefts,right :: rights => SecretValues sensitive left right ∧ SecretItems sensitive lefts rights
  | _,_ => False
def SecretMembers (sensitive : Text → Bool) : List (Text × Json) → List (Text × Json) → Prop
  | [],[] => True
  | (key,left) :: lefts,(other,right) :: rights =>
      key = other ∧ (sensitive key = true ∨ SecretValues sensitive left right) ∧ SecretMembers sensitive lefts rights
  | _,_ => False
end

def SecretDicts (left right : JsonDict) : Prop := SecretMembers scheme isSensitive left.members right.members

-- The dicts whose keys say nothing about secrets.
def PlainDicts (left right : JsonDict) : Prop := SecretMembers scheme (fun _ => false) left.members right.members

structure SecretArtifacts (left right : WorkspaceArtifactRef) : Prop where
  artifactId : left.artifactId = right.artifactId
  artifactType : SecretTexts scheme left.artifactType right.artifactType
  path : SecretTexts scheme left.path right.path
  summary : SecretTexts scheme left.summary right.summary
  createdAt : left.createdAt = right.createdAt
  sourceRefs : List.Forall₂ (SecretTexts scheme) left.sourceRefs right.sourceRefs
  metadata : SecretDicts scheme left.metadata right.metadata
  pinned : left.pinned = right.pinned

structure SecretInputs (left right : WorkspaceInputRef) : Prop where
  inputId : left.inputId = right.inputId
  inputKind : SecretTexts scheme left.inputKind right.inputKind
  summary : SecretTexts scheme left.summary right.summary
  redactionStatus : left.redactionStatus = right.redactionStatus
  createdAt : left.createdAt = right.createdAt
  source : SecretTexts scheme left.source right.source
  content : Option.Rel (SecretTexts scheme) left.content right.content
  metadata : PlainDicts scheme left.metadata right.metadata

structure SecretTasks (left right : WorkspaceTask) : Prop where
  taskId : left.taskId = right.taskId
  text : SecretTexts scheme left.text right.text
  status : left.status = right.status
  priority : left.priority = right.priority
  createdAt : left.createdAt = right.createdAt
  updatedAt : left.updatedAt = right.updatedAt
  sourceRefs : List.Forall₂ (SecretTexts scheme) left.sourceRefs right.sourceRefs

structure SecretStates (left right : WorkspaceState) : Prop where
  workspaceId : left.workspaceId = right.workspaceId
  title : SecretTexts scheme left.title right.title
  status : left.status = right.status
  mode : SecretTexts scheme left.mode right.mode
  createdAt : left.createdAt = right.createdAt
  updatedAt : left.updatedAt = right.updatedAt
  schemaVersion : left.schemaVersion = right.schemaVersion
  activeDate : left.activeDate = right.activeDate
  activeSymbols : List.Forall₂ (SecretTexts scheme) left.activeSymbols right.activeSymbols
  activeArtifacts : List.Forall₂ (SecretArtifacts scheme) left.activeArtifacts right.activeArtifacts
  recentInputs : List.Forall₂ (SecretInputs scheme) left.recentInputs right.recentInputs
  openTasks : List.Forall₂ (SecretTasks scheme) left.openTasks right.openTasks
  assumptions : List.Forall₂ (SecretTexts scheme) left.assumptions right.assumptions
  warnings : List.Forall₂ (SecretTexts scheme) left.warnings right.warnings
  errors : List.Forall₂ (SecretTexts scheme) left.errors right.errors
  dataFreshness : PlainDicts scheme left.dataFreshness right.dataFreshness
  lastCompactedAt : left.lastCompactedAt = right.lastCompactedAt
  contextSize : PlainDicts scheme left.contextSize right.contextSize

end versions

-- The written texts tell two versions apart unless what differs is replaced;
-- what is redacted once is not changed again.
theorem secrets_hidden_exactly (scheme : Text → Prop) : (∀ left right, SecretStates scheme left right →
      (saveWorkspaceState left = saveWorkspaceState right ↔ AlikeStates left right)) ∧
    (∀ left right, SecretDicts scheme left right →
      (appendWorkspaceEvent left = appendWorkspaceEvent right ↔ AlikeDicts left right)) ∧
    (∀ text, (redactWorkspaceText (redactWorkspaceText text).text).text = (redactWorkspaceText text).text) ∧
    ∀ members, redactWorkspaceMapping (redactWorkspaceMapping members) = redactWorkspaceMapping members :=
  ⟨fun left right _ => saveWorkspaceState_iff left right,fun left right _ => appendWorkspaceEvent_iff left right,
    redactText_twice,redactMapping_twice⟩

def emptyDict : JsonDict := ⟨[],trivial⟩

def warnedState (warning : String) : WorkspaceState where
  workspaceId := "ws-1".toList
  title := "Research".toList
  status := .active
  mode := "research".toList
  createdAt := "2026-01-01".toList
  updatedAt := "2026-01-01".toList
  schemaVersion := workspaceSchemaVersion
  activeDate := none
  activeSymbols := []
  activeArtifacts := []
  recentInputs := []
  openTasks := []
  assumptions := []
  warnings := [warning.toList]
  errors := []
  dataFreshness := emptyDict
  lastCompactedAt := none
  contextSize := emptyDict

variable (scheme : Text → Prop)

theorem secretTexts_refl (text : Text) : SecretTexts scheme text text := by
  induction text with
  | nil => exact .nil
  | cons c text ih => exact .kept c ih

theorem warned_versions (left right : String) (versions : SecretTexts scheme left.toList right.toList) :
    SecretStates scheme (warnedState left) (warnedState right) :=
  ⟨rfl,secretTexts_refl _ _,rfl,secretTexts_refl _ _,rfl,rfl,rfl,rfl,.nil,.nil,.nil,.nil,.nil,.cons versions .nil,.nil,trivial,
    rfl,trivial⟩

def credentialEvent (key : String) (value : Json) (plain : Json.Printable value) : JsonDict := ⟨[(key.toList,value)],plain,trivial⟩

theorem secrets_hidden_sample : saveWorkspaceState (warnedState "password=a") = saveWorkspaceState (warnedState "password=b") ∧
      appendWorkspaceEvent (credentialEvent "token" (.str ['a']) trivial) =
        appendWorkspaceEvent (credentialEvent "token" (.str ['b']) trivial) ∧
      (redactWorkspaceText (redactWorkspaceText "token: a".toList).text).text = (redactWorkspaceText "token: a".toList).text ∧
      redactWorkspaceMapping (redactWorkspaceMapping [("token".toList,.null)]) = redactWorkspaceMapping [("token".toList,.null)] := by
  have exactly := secrets_hidden_exactly (fun _ => False)
  have versions : SecretTexts (fun _ => False) "password=a".toList "password=b".toList := by
    have known : "password".toList.map foldCase ∈ sensitiveWords := by decide
    have separated : IsSeparator ['='] := ⟨[],'=',[],rfl,by simp,rfl⟩
    have first : IsCredential ['a'] := ⟨by decide,List.forall_mem_singleton.mpr (by decide)⟩
    have second : IsCredential ['b'] := ⟨by decide,List.forall_mem_singleton.mpr (by decide)⟩
    have step := SecretTexts.secret known separated (.inl rfl) first second (@SecretTexts.nil (fun _ => False))
    have left : "password".toList ++ ['='] ++ [] ++ ['a'] ++ [] = "password=a".toList := by decide
    have right : "password".toList ++ ['='] ++ [] ++ ['b'] ++ [] = "password=b".toList := by decide
    rwa [left,right] at step
  have warning : AlikeText "password=a".toList "password=b".toList := by
    rw [← redactText_iff]
    decide
  refine ⟨?_,?_,exactly.2.2.1 _,exactly.2.2.2 _⟩
  · apply (exactly.1 _ _ (warned_versions _ _ _ versions)).mpr
    exact ⟨rfl,Replacement.alike_refl _,rfl,rfl,rfl,rfl,rfl,rfl,.nil,.nil,.nil,.nil,.cons warning .nil,.nil,rfl,rfl,rfl⟩
  · have sensitive : isSensitive "token".toList = true := by decide
    have versions : SecretDicts (fun _ => False) (credentialEvent "token" (.str ['a']) trivial)
        (credentialEvent "token" (.str ['b']) trivial) := ⟨rfl,.inl sensitive,trivial⟩
    apply (exactly.2.1 _ _ versions).mpr
    exact ⟨rfl,.inl sensitive,trivial⟩

-- A bearer token is not the run after the separator; a number, and a dict in a
-- list, are not redacted under any key.
theorem credential_written :
    (SecretStates (· = "Bearer".toList) (warnedState "Authorization: Bearer a") (warnedState "Authorization: Bearer b") ∧
      saveWorkspaceState (warnedState "Authorization: Bearer a") ≠ saveWorkspaceState (warnedState "Authorization: Bearer b")) ∧
    (SecretDicts (· = "Bearer".toList) (credentialEvent "token" (.int 1) trivial) (credentialEvent "token" (.int 2) trivial) ∧
      appendWorkspaceEvent (credentialEvent "token" (.int 1) trivial) ≠
        appendWorkspaceEvent (credentialEvent "token" (.int 2) trivial)) ∧
    SecretDicts (· = "Bearer".toList) (credentialEvent "calls" (.arr [.obj [("token".toList,.str ['a'])]]) ⟨⟨trivial,trivial⟩,trivial⟩)
      (credentialEvent "calls" (.arr [.obj [("token".toList,.str ['b'])]]) ⟨⟨trivial,trivial⟩,trivial⟩) ∧
    appendWorkspaceEvent (credentialEvent "calls" (.arr [.obj [("token".toList,.str ['a'])]]) ⟨⟨trivial,trivial⟩,trivial⟩) ≠
      appendWorkspaceEvent (credentialEvent "calls" (.arr [.obj [("token".toList,.str ['b'])]]) ⟨⟨trivial,trivial⟩,trivial⟩) := by
  have sensitive : isSensitive "token".toList = true := by decide
  have versions : SecretTexts (· = "Bearer".toList) "Authorization: Bearer a".toList "Authorization: Bearer b".toList := by
    have known : "Authorization".toList.map foldCase ∈ sensitiveWords := by decide
    have blank : ∀ c ∈ [' '], Text.isSpace c = true := List.all_eq_true.mp (by decide)
    have separated : IsSeparator [':',' '] := ⟨[],':',[' '],rfl,blank,rfl⟩
    have introduced : IsScheme (· = "Bearer".toList) ("Bearer".toList ++ [' ']) :=
      .inr ⟨"Bearer".toList,[' '],rfl,rfl,by decide,blank⟩
    have first : IsCredential ['a'] := ⟨by decide,List.forall_mem_singleton.mpr (by decide)⟩
    have second : IsCredential ['b'] := ⟨by decide,List.forall_mem_singleton.mpr (by decide)⟩
    have step := SecretTexts.secret known separated introduced first second .nil
    have left : "Authorization".toList ++ [':',' '] ++ ("Bearer".toList ++ [' ']) ++ ['a'] ++ [] =
        "Authorization: Bearer a".toList := by decide
    have right : "Authorization".toList ++ [':',' '] ++ ("Bearer".toList ++ [' ']) ++ ['b'] ++ [] =
        "Authorization: Bearer b".toList := by decide
    rwa [left,right] at step
  refine ⟨⟨warned_versions _ _ _ versions,?_⟩,⟨⟨rfl,.inl sensitive,trivial⟩,?_⟩,
    ⟨rfl,.inr ⟨⟨rfl,.inl sensitive,trivial⟩,trivial⟩,trivial⟩,?_⟩
  · intro same
    have alike := ((saveWorkspaceState_iff _ _).mp same).warnings
    obtain ⟨warning,_⟩ := List.forall₂_cons.mp alike
    have equal := (redactText_iff _ _).mpr warning
    exact absurd equal (by decide)
  · decide
  · decide

end OpenStock.Workspaces.Documents
