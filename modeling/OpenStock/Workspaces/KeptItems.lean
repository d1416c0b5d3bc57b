import OpenStock.Workspaces.Calls

namespace OpenStock.Workspaces

/- What a root keeps of recorded items. -/

inductive Kind where
  | input
  | artifact
  | warning
  | error

def Mutation.kind : Mutation ν → Kind
  | input _ => .input
  | artifact _ => .artifact
  | warning _ => .warning
  | error _ => .error

def Mutation.item : Mutation ν → ν
  | input item => item
  | artifact artifactRef => artifactRef.item
  | warning message => message
  | error message => message

def Workspace.items (state : Workspace ν) : Kind → List ν
  | .input => state.recentInputs
  | .artifact => state.activeArtifacts.map ArtifactRef.item
  | .warning => state.warnings
  | .error => state.errors

def Archive.items (archive : Archive ν) : Kind → List ν
  | .input => archive.inputs
  | .artifact => archive.artifacts.map ArtifactRef.item
  | .warning => archive.warnings
  | .error => archive.errors

def Root.holds (root : Root ν) (state : Workspace ν) (kind : Kind) : List ν :=
  state.items kind ++ (root.archives state.workspaceId).items kind

-- The workspace or its archive has the item, known by what redaction leaves of it.
def Kept (identity : ν → ι) (root : Root ν) (workspaceId : Text) (mutation : Mutation ν) : Prop :=
  ∃ state, loadWorkspaceState root workspaceId = .ok state ∧ identity mutation.item ∈ (root.holds state mutation.kind).map identity

-- Retention drops no artifact for the id of a retained one.
def KeepsArtifacts (limits : WorkspaceLimits) (state : Workspace ν) : Prop :=
  ∀ artifact ∈ state.activeArtifacts,
    artifact.artifactId ∈ (keptArtifacts limits.maxActiveArtifacts state.activeArtifacts).map ArtifactRef.artifactId →
      artifact ∈ keptArtifacts limits.maxActiveArtifacts state.activeArtifacts

theorem newest_or_older (count : Nat) (inside : item ∈ values) : item ∈ newest count values ∨ item ∈ older count values := by
  have parts := List.take_append_drop (values.length - count) values
  rw [← parts] at inside
  rcases List.mem_append.mp inside with old | new
  · exact .inr old
  · exact .inl new

section items
variable {ν ι : Type} [Redaction ν] {identity : ν → ι}

-- Redaction changes an item's text, not what it is known by.
structure Recognizable (identity : ν → ι) : Prop where
  message : ∀ item, identity (Redaction.message item) = identity item
  stored : ∀ item, identity (Redaction.stored item) = identity item

theorem applied_item (recognizable : Recognizable identity) (mutation : Mutation ν) (now : Text) (current : Workspace ν) :
    identity mutation.item ∈ ((mutation.apply now current).items mutation.kind).map identity := by
  cases mutation <;> simp [Mutation.item,Mutation.kind,Mutation.apply,Workspace.items,recognizable.message]

variable {item : ν} {kind : Kind}

theorem applied_older (mutation : Mutation ν) (now : Text)
    (inside : item ∈ current.items kind) : item ∈ (mutation.apply now current).items kind := by
  cases mutation <;> cases kind <;> simp_all [Mutation.apply,Workspace.items]

theorem persisted_items (state : Workspace ν) (kind : Kind) : (persisted state).items kind = (state.items kind).map Redaction.stored := by
  cases kind <;> simp [persisted,Workspace.items]

theorem archived_older (limits : WorkspaceLimits) (state : Workspace ν)
    (inside : item ∈ archive.items kind) : item ∈ (archiveWith limits state archive).items kind := by
  cases kind with
  | input => exact List.mem_append_left _ inside
  | artifact =>
    obtain ⟨artifact,listed,rfl⟩ := List.mem_map.mp inside
    exact List.mem_map_of_mem (List.mem_append_left _ listed)
  | warning | error => exact List.mem_append_left _ inside

theorem trimmed_message (recognizable : Recognizable identity) {values : List ν} (count : Nat) (inside : item ∈ values) :
    ∃ other, (other ∈ newest count (values.map Redaction.message) ∨ other ∈ older count (values.map Redaction.message)) ∧
      identity other = identity item :=
  ⟨Redaction.message item,newest_or_older count (List.mem_map_of_mem inside),recognizable.message item⟩

-- What retention takes out of a state it puts into the archive.
theorem retained_items (recognizable : Recognizable identity) {state : Workspace ν}
    (keeps : KeepsArtifacts limits state) (archive : Archive ν) (inside : item ∈ state.items kind) :
    ∃ other, (other ∈ (retained limits state).items kind ∨ other ∈ (archiveWith limits state archive).items kind) ∧
      identity other = identity item := by
  cases kind with
  | input =>
    refine ⟨item,?_,rfl⟩
    rcases newest_or_older limits.maxInputs.count inside with new | old
    · exact .inl new
    · exact .inr (List.mem_append_right _ old)
  | artifact =>
    obtain ⟨artifact,listed,rfl⟩ := List.mem_map.mp inside
    refine ⟨artifact.item,?_,rfl⟩
    by_cases named : artifact.artifactId ∈ (keptArtifacts limits.maxActiveArtifacts state.activeArtifacts).map ArtifactRef.artifactId
    · exact .inl (List.mem_map_of_mem (keeps artifact listed named))
    · right
      apply List.mem_map_of_mem
      apply List.mem_append_right
      exact List.mem_filter.mpr ⟨listed,decide_eq_true named⟩
  | warning =>
    obtain ⟨other,place,same⟩ := trimmed_message recognizable limits.maxWarnings.count inside
    refine ⟨other,?_,same⟩
    rcases place with new | old
    · exact .inl new
    · exact .inr (List.mem_append_right _ old)
  | error =>
    obtain ⟨other,place,same⟩ := trimmed_message recognizable limits.maxErrors.count inside
    refine ⟨other,?_,same⟩
    rcases place with new | old
    · exact .inl new
    · exact .inr (List.mem_append_right _ old)

end items

end OpenStock.Workspaces
