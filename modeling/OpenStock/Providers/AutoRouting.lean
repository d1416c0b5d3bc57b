import OpenStock.Providers.PluginRouter

namespace OpenStock.Providers
open Text

/- What routing promises. -/

def HealthStatus.tier : HealthStatus → Nat
  | .healthy => 0
  | .unknown => 0
  | .degraded => 1
  | .failing => 2
  | .disabled => 3

namespace PluginRouter
variable {router : PluginRouter} {dataset : Text} {authPolicy : AuthPolicy} {now : ℚ} {provider other : ProviderPlugin}

def status (router : PluginRouter) (dataset : Text) (provider : ProviderPlugin) : HealthStatus :=
  (router.healthStore.get provider.name dataset).status

def authAllows (dataset : Text) (policy : AuthPolicy) (provider : ProviderPlugin) : Bool :=
  match policy with
  | .allowAuthenticated => true
  | .preferNoAuth => true
  | .forbidAuthenticated => !provider.requiresAuth dataset
  | .requireAuthenticated => provider.requiresAuth dataset

def allowsTier (policy : RoutingPolicy) : HealthStatus → Bool
  | .healthy => true
  | .unknown => true
  | .degraded => policy.allowDegraded
  | .failing => policy.allowFailingFallback
  | .disabled => false

-- A filter, or the auth policy, takes the candidate out.
def Filtered (router : PluginRouter) (dataset : Text) (authPolicy : AuthPolicy) (now : ℚ) (provider : ProviderPlugin) : Prop :=
  provider.isExplicitOnly dataset = true ∨ router.status dataset provider = .disabled ∨
    (router.policy.respectCooldown = true ∧ (router.healthStore.get provider.name dataset).isInCooldown now = true) ∨
    authAllows dataset authPolicy provider = false

structure Admissible (router : PluginRouter) (dataset : Text) (authPolicy : AuthPolicy) (now : ℚ) (provider : ProviderPlugin) :
    Prop where
  candidate : provider ∈ router.registry.providersFor dataset
  kept : ¬ Filtered router dataset authPolicy now provider
  allowed : allowsTier router.policy (router.status dataset provider) = true

-- Public providers first where the policy prefers them.
def shown (dataset : Text) (authPolicy : AuthPolicy) (provider : ProviderPlugin) : Nat :=
  if authPolicy = .preferNoAuth ∧ provider.requiresAuth dataset = true then 1 else 0

def Within (router : PluginRouter) (dataset : Text) (authPolicy : AuthPolicy) (left right : ProviderPlugin) : Prop :=
  shown dataset authPolicy left < shown dataset authPolicy right ∨
    shown dataset authPolicy left = shown dataset authPolicy right ∧
      keyBefore (router.sortKey dataset left) (router.sortKey dataset right)

def Precedes (router : PluginRouter) (dataset : Text) (authPolicy : AuthPolicy) (left right : ProviderPlugin) : Prop :=
  (router.status dataset left).tier < (router.status dataset right).tier ∨
    (router.status dataset left).tier = (router.status dataset right).tier ∧ router.Within dataset authPolicy left right

structure RoutesBest (router : PluginRouter) (dataset : Text) (authPolicy : AuthPolicy) (now : ℚ) (decision : RoutingDecision)
    (result : Except RoutingFailure ProviderPlugin) : Prop where
  unsupported : result = .error (.unsupportedDataset dataset) ↔ router.registry.providersFor dataset = []
  unhealthy : (∃ names reasons, result = .error (.noHealthyProvider dataset names reasons)) ↔
    router.registry.providersFor dataset ≠ [] ∧ ∀ provider, ¬ Admissible router dataset authPolicy now provider
  best : ∀ provider, result = .ok provider → Admissible router dataset authPolicy now provider ∧
    ∀ other, Admissible router dataset authPolicy now other → router.Precedes dataset authPolicy provider other
  rejected : ∀ provider ∈ router.registry.providersFor dataset, Filtered router dataset authPolicy now provider →
    provider.name ∈ decision.rejected.map Prod.fst
  kept : ∀ provider, result = .ok provider → provider.name ∉ decision.rejected.map Prod.fst

/- The order of the candidates. -/

theorem keyBefore_total (left right : Nat × Text) : keyBefore left right ∨ keyBefore right left := by
  unfold keyBefore
  rcases lt_trichotomy left.1 right.1 with less | same | more
  · exact .inl (.inl less)
  · rcases le_total left.2 right.2 with before | after
    · exact .inl (.inr ⟨same,before⟩)
    · exact .inr (.inr ⟨same.symm,after⟩)
  · exact .inr (.inl more)

theorem keyBefore_trans (left : keyBefore first second) (right : keyBefore second third) : keyBefore first third := by
  unfold keyBefore at *
  rcases left with less | ⟨same,before⟩
  · rcases right with later | ⟨equal,_⟩
    · exact .inl (lt_trans less later)
    · exact .inl (equal ▸ less)
  · rcases right with later | ⟨equal,after⟩
    · exact .inl (same ▸ later)
    · exact .inr ⟨same.trans equal,le_trans before after⟩

theorem ordered_pairwise (router : PluginRouter) (dataset : Text) : (router.ordered dataset).Pairwise
    (fun left right => keyBefore (router.sortKey dataset left) (router.sortKey dataset right)) := by
  have total : Std.Total (fun left right => keyBefore (router.sortKey dataset left) (router.sortKey dataset right)) :=
    ⟨fun _ _ => keyBefore_total _ _⟩
  have transitive : IsTrans ProviderPlugin
      (fun left right => keyBefore (router.sortKey dataset left) (router.sortKey dataset right)) :=
    ⟨fun _ _ _ => keyBefore_trans⟩
  exact List.pairwise_insertionSort _ _

theorem mem_ordered : provider ∈ router.ordered dataset ↔ provider ∈ router.registry.providersFor dataset :=
  List.mem_insertionSort _

/- The tiers. -/

def picked (router : PluginRouter) (dataset : Text) (now : ℚ) (tier : Nat) : List ProviderPlugin :=
  (router.ordered dataset).filter (fun provider =>
    (router.refusal dataset now provider).isNone && (router.status dataset provider).tier = tier)

-- The loop distributes the ordered candidates over the tiers.
theorem place_all (router : PluginRouter) (dataset : Text) (now : ℚ) (tiers : Tiers) (providers : List ProviderPlugin) :
    providers.foldl (router.place dataset now) tiers = ⟨tiers.healthy ++ providers.filter (fun provider =>
          (router.refusal dataset now provider).isNone && (router.status dataset provider).tier = 0),
        tiers.degraded ++ providers.filter (fun provider =>
          (router.refusal dataset now provider).isNone && (router.status dataset provider).tier = 1),
        tiers.failing ++ providers.filter (fun provider =>
          (router.refusal dataset now provider).isNone && (router.status dataset provider).tier = 2),
        tiers.rejected ++ providers.filterMap (fun provider =>
          (router.refusal dataset now provider).map (fun reason => (provider.name,reason)))⟩ := by
  induction providers generalizing tiers with
  | nil => simp
  | cons provider providers ih =>
    rw [List.foldl_cons,ih]
    cases refused : router.refusal dataset now provider with
    | some reason => simp [place,refused]
    | none =>
      have shape : router.status dataset provider = (router.healthStore.get provider.name dataset).status := rfl
      cases status : (router.healthStore.get provider.name dataset).status <;>
        simp [place,refused,status,shape,HealthStatus.tier]

theorem refusal_none : router.refusal dataset now provider = none ↔ provider.isExplicitOnly dataset = false ∧
    router.status dataset provider ≠ .disabled ∧
    ¬ (router.policy.respectCooldown = true ∧ (router.healthStore.get provider.name dataset).isInCooldown now = true) := by
  unfold refusal status
  dsimp only
  by_cases explicit : provider.isExplicitOnly dataset = true
  · rw [if_pos explicit,explicit]
    exact ⟨nofun,fun kept => nomatch kept.1⟩
  · rw [if_neg explicit]
    by_cases disabled : (router.healthStore.get provider.name dataset).status = .disabled
    · rw [if_pos disabled]
      exact ⟨nofun,fun kept => absurd disabled kept.2.1⟩
    · rw [if_neg disabled,← Bool.and_eq_true]
      by_cases cooling : (router.policy.respectCooldown && (router.healthStore.get provider.name dataset).isInCooldown now) = true
      · rw [if_pos cooling]
        exact ⟨nofun,fun kept => absurd cooling kept.2.2⟩
      · rw [if_neg cooling]
        exact ⟨fun _ => ⟨Bool.eq_false_of_not_eq_true explicit,disabled,cooling⟩,fun _ => rfl⟩

theorem filtered_iff : Filtered router dataset authPolicy now provider ↔
    router.refusal dataset now provider ≠ none ∨ authAllows dataset authPolicy provider = false := by
  rw [Ne,refusal_none]
  unfold Filtered
  rw [← Bool.not_eq_true (provider.isExplicitOnly dataset)]
  tauto

variable {tier : List ProviderPlugin} {policy : AuthPolicy}

theorem mem_arrange :
    provider ∈ (arrange dataset policy tier).1 ↔ provider ∈ tier ∧ authAllows dataset policy provider = true := by
  cases policy with
  | allowAuthenticated | forbidAuthenticated | requireAuthenticated => simp [arrange,authAllows]
  | preferNoAuth =>
    simp only [arrange,authAllows,List.mem_append,List.mem_filter,and_true]
    cases provider.requiresAuth dataset <;> simp

-- Whoever a policy turns away is named in what it rejects, and nobody else.
theorem mem_turned : name ∈ (arrange dataset policy tier).2.map Prod.fst ↔
      ∃ provider ∈ tier, authAllows dataset policy provider = false ∧ provider.name = name := by
  cases policy with
  | allowAuthenticated | preferNoAuth => simp [arrange,authAllows]
  | forbidAuthenticated | requireAuthenticated => simp [arrange,authAllows,and_assoc]

-- A policy keeps a tier in order, behind its own preference.
theorem arrange_within
    (inOrder : tier.Pairwise (fun left right => keyBefore (router.sortKey dataset left) (router.sortKey dataset right))) :
    (arrange dataset policy tier).1.Pairwise (router.Within dataset policy) := by
  have alike : ∀ {kept : List ProviderPlugin}, kept.Sublist tier →
      (∀ left ∈ kept, ∀ right ∈ kept, shown dataset policy left = shown dataset policy right) →
      kept.Pairwise (router.Within dataset policy) := by
    intro kept fewer equal
    exact (inOrder.sublist fewer).imp_of_mem (fun first second before => .inr ⟨equal _ first _ second,before⟩)
  cases policy with
  | allowAuthenticated => exact alike (List.Sublist.refl _) (fun _ _ _ _ => by simp [shown])
  | forbidAuthenticated | requireAuthenticated => exact alike List.filter_sublist (fun _ _ _ _ => by simp [shown])
  | preferNoAuth =>
    have publicFirst : ∀ left ∈ tier.filter (fun provider => !provider.requiresAuth dataset),
        shown dataset .preferNoAuth left = 0 := by
      intro left inside
      have unauthenticated := (List.mem_filter.mp inside).2
      simp only [Bool.not_eq_true'] at unauthenticated
      simp [shown,unauthenticated]
    have authenticatedLast : ∀ right ∈ tier.filter (fun provider => provider.requiresAuth dataset),
        shown dataset .preferNoAuth right = 1 := by
      intro right inside
      have authenticated := (List.mem_filter.mp inside).2
      simp [shown,authenticated]
    refine List.pairwise_append.mpr ⟨?_,?_,?_⟩
    · exact alike List.filter_sublist (fun left first right second => by rw [publicFirst left first,publicFirst right second])
    · exact alike List.filter_sublist
        (fun left first right second => by rw [authenticatedLast left first,authenticatedLast right second])
    · intro left first right second
      refine .inl ?_
      rw [publicFirst left first,authenticatedLast right second]
      exact Nat.zero_lt_one

def chosen (router : PluginRouter) (dataset : Text) (authPolicy : AuthPolicy) (now : ℚ) (tier : Nat) : List ProviderPlugin :=
  (arrange dataset authPolicy (router.picked dataset now tier)).1

theorem mem_picked {tier : Nat} : provider ∈ router.picked dataset now tier ↔
    provider ∈ router.registry.providersFor dataset ∧ router.refusal dataset now provider = none ∧
      (router.status dataset provider).tier = tier := by
  simp [picked,mem_ordered]

theorem mem_chosen {tier : Nat} : provider ∈ router.chosen dataset authPolicy now tier ↔
    provider ∈ router.registry.providersFor dataset ∧ ¬ Filtered router dataset authPolicy now provider ∧
      (router.status dataset provider).tier = tier := by
  rw [chosen,mem_arrange,mem_picked,filtered_iff]
  simp only [not_or,not_not,Bool.not_eq_false]
  tauto

theorem chosen_first {tier : Nat} (first : router.chosen dataset authPolicy now tier = provider :: rest)
    (inside : other ∈ router.chosen dataset authPolicy now tier) : router.Within dataset authPolicy provider other := by
  have inOrder : (router.chosen dataset authPolicy now tier).Pairwise (router.Within dataset authPolicy) :=
    arrange_within ((ordered_pairwise router dataset).sublist List.filter_sublist)
  rw [first] at inOrder inside
  rcases List.mem_cons.mp inside with same | later
  · rw [same]
    exact .inr ⟨rfl,(keyBefore_total _ _).elim id id⟩
  · exact (List.pairwise_cons.mp inOrder).1 other later

theorem tiers_chosen (router : PluginRouter) (dataset : Text) (authPolicy : AuthPolicy) (now : ℚ) :
    router.tiers dataset authPolicy now = ⟨router.chosen dataset authPolicy now 0,router.chosen dataset authPolicy now 1,
      router.chosen dataset authPolicy now 2, (router.ordered dataset).filterMap (fun provider =>
        (router.refusal dataset now provider).map (fun reason => (provider.name,reason))) ++
        (arrange dataset authPolicy (router.picked dataset now 0)).2 ++
        (arrange dataset authPolicy (router.picked dataset now 1)).2 ++
        (arrange dataset authPolicy (router.picked dataset now 2)).2⟩ := by
  rw [tiers,place_all]
  rfl

-- The rejected map names the filtered candidates.
theorem mem_rejected : name ∈ (router.tiers dataset authPolicy now).rejected.map Prod.fst ↔
    ∃ provider ∈ router.registry.providersFor dataset,
      Filtered router dataset authPolicy now provider ∧ provider.name = name := by
  rw [tiers_chosen]
  simp only [List.map_append,List.mem_append,mem_turned,mem_picked,filtered_iff]
  constructor
  · intro named
    rcases named with ((refused | turned) | turned) | turned
    · obtain ⟨entry,inside,same⟩ := List.mem_map.mp refused
      obtain ⟨provider,present,reason⟩ := List.mem_filterMap.mp inside
      obtain ⟨text,refusal,rfl⟩ := Option.map_eq_some_iff.mp reason
      exact ⟨provider,mem_ordered.mp present,.inl (by simp [refusal]),same⟩
    all_goals
      obtain ⟨provider,⟨present,_,_⟩,turned,same⟩ := turned
      exact ⟨provider,present,.inr turned,same⟩
  · rintro ⟨provider,present,filtered,same⟩
    cases refusal : router.refusal dataset now provider with
    | some reason =>
      refine .inl (.inl (.inl (List.mem_map.mpr ⟨(provider.name,reason),List.mem_filterMap.mpr ?_,same⟩)))
      exact ⟨provider,mem_ordered.mpr present,by simp [refusal]⟩
    | none =>
      have turned : authAllows dataset authPolicy provider = false := filtered.resolve_left (by simp [refusal])
      have live := (refusal_none.mp refusal).2.1
      cases status : router.status dataset provider with
      | disabled => exact absurd status live
      | healthy | unknown => exact .inl (.inl (.inr ⟨provider,⟨present,refusal,by rw [status]; rfl⟩,turned,same⟩))
      | degraded => exact .inl (.inr ⟨provider,⟨present,refusal,by rw [status]; rfl⟩,turned,same⟩)
      | failing => exact .inr ⟨provider,⟨present,refusal,by rw [status]; rfl⟩,turned,same⟩

/- The selection. -/

theorem select_cases (policy : RoutingPolicy) (dataset : Text) (tiers : Tiers) :
    (∃ provider rest, policy.preferHealthy = true ∧ tiers.healthy = provider :: rest ∧
      (select policy dataset tiers).selected = some provider) ∨ ¬ (policy.preferHealthy = true ∧ tiers.healthy ≠ []) ∧
    ((∃ provider rest, policy.allowDegraded = true ∧ tiers.degraded = provider :: rest ∧
      (select policy dataset tiers).selected = some provider) ∨ ¬ (policy.allowDegraded = true ∧ tiers.degraded ≠ []) ∧
    ((∃ provider rest, policy.allowFailingFallback = true ∧ tiers.failing = provider :: rest ∧
      (select policy dataset tiers).selected = some provider) ∨
    ¬ (policy.allowFailingFallback = true ∧ tiers.failing ≠ []) ∧ (select policy dataset tiers).selected = none)) := by
  obtain ⟨healthy,degraded,failing,rejected⟩ := tiers
  obtain ⟨preferHealthy,allowDegraded,allowFailingFallback,respectCooldown⟩ := policy
  cases preferHealthy <;> cases healthy <;> cases allowDegraded <;> cases degraded <;> cases allowFailingFallback <;>
    cases failing <;> simp [select]

theorem admissible_iff : Admissible router dataset authPolicy now provider ↔ provider ∈ router.chosen dataset authPolicy now 0 ∨
    router.policy.allowDegraded = true ∧ provider ∈ router.chosen dataset authPolicy now 1 ∨
    router.policy.allowFailingFallback = true ∧ provider ∈ router.chosen dataset authPolicy now 2 := by
  simp only [mem_chosen]
  constructor
  · intro admissible
    have allowed := admissible.allowed
    cases status : router.status dataset provider with
    | healthy | unknown => exact .inl ⟨admissible.candidate,admissible.kept,rfl⟩
    | degraded =>
      rw [status] at allowed
      exact .inr (.inl ⟨allowed,admissible.candidate,admissible.kept,rfl⟩)
    | failing =>
      rw [status] at allowed
      exact .inr (.inr ⟨allowed,admissible.candidate,admissible.kept,rfl⟩)
    | disabled =>
      rw [status] at allowed
      cases allowed
  · intro placed
    rcases placed with ⟨candidate,kept,tier⟩ | ⟨policy,candidate,kept,tier⟩ | ⟨policy,candidate,kept,tier⟩
    all_goals
      refine ⟨candidate,kept,?_⟩
      cases status : router.status dataset provider <;> rw [status] at tier <;> first | rfl | exact policy | cases tier

-- The healthy tier is empty after the filters, or the policy looks at it.
def Reachable (router : PluginRouter) (dataset : Text) (authPolicy : AuthPolicy) (now : ℚ) : Prop :=
  router.policy.preferHealthy = true ∨
    ∀ provider, Admissible router dataset authPolicy now provider → (router.status dataset provider).tier ≠ 0

theorem chosen_tier {tier : Nat} (inside : provider ∈ router.chosen dataset authPolicy now tier) :
    (router.status dataset provider).tier = tier :=
  (mem_chosen.mp inside).2.2

-- The selection is the best admissible candidate, or there is none.
theorem selected_best (reachable : Reachable router dataset authPolicy now) :
    match (select router.policy dataset (router.tiers dataset authPolicy now)).selected with
    | some provider => Admissible router dataset authPolicy now provider ∧
        ∀ other, Admissible router dataset authPolicy now other → router.Precedes dataset authPolicy provider other
    | none => ∀ provider, ¬ Admissible router dataset authPolicy now provider := by
  have unhealthy : ¬ (router.policy.preferHealthy = true ∧ router.chosen dataset authPolicy now 0 ≠ []) →
      ∀ other, other ∉ router.chosen dataset authPolicy now 0 := by
    intro skipped other inside
    have admissible : Admissible router dataset authPolicy now other := admissible_iff.mpr (.inl inside)
    rcases reachable with prefers | none
    · exact skipped ⟨prefers,List.ne_nil_of_mem inside⟩
    · exact none other admissible (chosen_tier inside)
  have cases := select_cases router.policy dataset (router.tiers dataset authPolicy now)
  rw [tiers_chosen] at cases ⊢
  dsimp only at cases
  rcases cases with ⟨provider,rest,_,first,selected⟩ | ⟨skipped,⟨provider,rest,allowed,first,selected⟩ |
      ⟨undegraded,⟨provider,rest,allowed,first,selected⟩ | ⟨unfailing,selected⟩⟩⟩
  · rw [selected]
    have head : provider ∈ router.chosen dataset authPolicy now 0 := first ▸ List.mem_cons_self
    refine ⟨admissible_iff.mpr (.inl head),?_⟩
    intro other admissible
    unfold Precedes
    rw [chosen_tier head]
    rcases admissible_iff.mp admissible with inside | ⟨_,inside⟩ | ⟨_,inside⟩
    · exact .inr ⟨(chosen_tier inside).symm,chosen_first first inside⟩
    · exact .inl (by rw [chosen_tier inside]; omega)
    · exact .inl (by rw [chosen_tier inside]; omega)
  · rw [selected]
    have head : provider ∈ router.chosen dataset authPolicy now 1 := first ▸ List.mem_cons_self
    refine ⟨admissible_iff.mpr (.inr (.inl ⟨allowed,head⟩)),?_⟩
    intro other admissible
    unfold Precedes
    rw [chosen_tier head]
    rcases admissible_iff.mp admissible with inside | ⟨_,inside⟩ | ⟨_,inside⟩
    · exact absurd inside (unhealthy skipped other)
    · exact .inr ⟨(chosen_tier inside).symm,chosen_first first inside⟩
    · exact .inl (by rw [chosen_tier inside]; omega)
  · rw [selected]
    have head : provider ∈ router.chosen dataset authPolicy now 2 := first ▸ List.mem_cons_self
    refine ⟨admissible_iff.mpr (.inr (.inr ⟨allowed,head⟩)),?_⟩
    intro other admissible
    unfold Precedes
    rw [chosen_tier head]
    rcases admissible_iff.mp admissible with inside | ⟨degraded,inside⟩ | ⟨_,inside⟩
    · exact absurd inside (unhealthy skipped other)
    · exact absurd ⟨degraded,List.ne_nil_of_mem inside⟩ undegraded
    · exact .inr ⟨(chosen_tier inside).symm,chosen_first first inside⟩
  · rw [selected]
    intro provider admissible
    rcases admissible_iff.mp admissible with inside | ⟨degraded,inside⟩ | ⟨failing,inside⟩
    · exact unhealthy skipped provider inside
    · exact undegraded ⟨degraded,List.ne_nil_of_mem inside⟩
    · exact unfailing ⟨failing,List.ne_nil_of_mem inside⟩

-- With candidates, the selection is all that counts.
theorem resolveAuto_selects (candidates : router.registry.providersFor dataset ≠ []) :
    (router.resolveAuto dataset authPolicy now).1.rejected = (router.tiers dataset authPolicy now).rejected ∧
    (router.resolveAuto dataset authPolicy now).2 =
      match (select router.policy dataset (router.tiers dataset authPolicy now)).selected with
      | some provider => .ok provider
      | none => .error (.noHealthyProvider dataset ((router.registry.providersFor dataset).map ProviderPlugin.name)
        (router.tiers dataset authPolicy now).rejected) := by
  have listed : (router.registry.providersFor dataset).isEmpty = false := by simpa using candidates
  unfold resolveAuto
  dsimp only
  rw [listed]
  cases (select router.policy dataset (router.tiers dataset authPolicy now)).selected <;> exact ⟨rfl,rfl⟩

-- Auto routing picks the best admissible provider exactly where it looks at the healthy
-- tier or has no healthy candidate left.
theorem routes_best_exactly (router : PluginRouter) (dataset : Text) (authPolicy : AuthPolicy) (now : ℚ) :
    RoutesBest router dataset authPolicy now (router.resolveAuto dataset authPolicy now).1
        (router.resolveAuto dataset authPolicy now).2 ↔ Reachable router dataset authPolicy now := by
  constructor
  · intro routes
    by_cases prefers : router.policy.preferHealthy = true
    · exact .inl prefers
    · refine .inr ?_
      intro provider admissible top
      have candidates : router.registry.providersFor dataset ≠ [] := List.ne_nil_of_mem admissible.candidate
      have result := (@resolveAuto_selects router dataset authPolicy now candidates).2
      have cases := select_cases router.policy dataset (router.tiers dataset authPolicy now)
      rw [tiers_chosen] at cases result
      dsimp only at cases result
      rcases cases with ⟨_,_,impossible,_⟩ | ⟨_,⟨second,rest,_,first,selected⟩ | ⟨_,⟨second,rest,_,first,selected⟩ |
        ⟨_,selected⟩⟩⟩
      · exact prefers impossible
      · rw [selected] at result
        have head : second ∈ router.chosen dataset authPolicy now 1 := first ▸ List.mem_cons_self
        have best := (routes.best second result).2 provider admissible
        unfold Precedes at best
        rw [chosen_tier head,top] at best
        omega
      · rw [selected] at result
        have head : second ∈ router.chosen dataset authPolicy now 2 := first ▸ List.mem_cons_self
        have best := (routes.best second result).2 provider admissible
        unfold Precedes at best
        rw [chosen_tier head,top] at best
        omega
      · rw [selected] at result
        exact (routes.unhealthy.mp ⟨_,_,result⟩).2 provider admissible
  · intro reachable
    cases listed : router.registry.providersFor dataset with
    | nil =>
      have unsupported : router.resolveAuto dataset authPolicy now = (⟨dataset,none,none,[],[],false,
          "no providers registered for this dataset".toList,[],[]⟩,.error (.unsupportedDataset dataset)) := by
        simp only [resolveAuto,listed]
        rfl
      rw [unsupported]
      constructor
      · simp [listed]
      · simp [listed]
      · exact nofun
      · intro provider inside
        rw [listed] at inside
        cases inside
      · exact nofun
    | cons provider providers =>
      have candidates : router.registry.providersFor dataset ≠ [] := by simp [listed]
      obtain ⟨decision,result⟩ := @resolveAuto_selects router dataset authPolicy now candidates
      have best := selected_best reachable
      have named : ∀ provider ∈ router.registry.providersFor dataset, Filtered router dataset authPolicy now provider →
          provider.name ∈ (router.resolveAuto dataset authPolicy now).1.rejected.map Prod.fst := by
        intro provider inside filtered
        rw [decision,mem_rejected]
        exact ⟨provider,inside,filtered,rfl⟩
      rw [result]
      cases selected : (select router.policy dataset (router.tiers dataset authPolicy now)).selected with
      | none =>
        rw [selected] at best
        refine ⟨by simp [candidates],?_,nofun,named,nofun⟩
        exact ⟨fun _ => ⟨candidates,best⟩,fun _ => ⟨_,_,rfl⟩⟩
      | some winner =>
        rw [selected] at best
        refine ⟨by simp [candidates],?_,?_,named,?_⟩
        · constructor
          · intro raised
            obtain ⟨_,_,impossible⟩ := raised
            cases impossible
          · intro hopeless
            exact absurd best.1 (hopeless.2 winner)
        · intro provider same
          cases same
          exact best
        · intro provider same rejected
          cases same
          rw [decision,mem_rejected] at rejected
          obtain ⟨other,inside,filtered,name⟩ := rejected
          rw [PluginRegistry.same_name inside best.1.candidate name] at filtered
          exact best.1.kept filtered

-- One provider, never tried, and a policy that does not put the healthy ones first.
def kbsPlugin : ProviderPlugin := ⟨"KBS".toList,fun dataset => dataset = "equity.ohlcv".toList,fun _ => none⟩

def indifferent : PluginRouter :=
  ⟨⟨[kbsPlugin],List.nodup_singleton _⟩,none,⟨3,60,[]⟩,{RoutingPolicy.default with preferHealthy:=false}⟩

theorem healthy_left_out : ¬ ∀ (router : PluginRouter) (dataset : Text) (authPolicy : AuthPolicy) (now : ℚ),
    RoutesBest router dataset authPolicy now (router.resolveAuto dataset authPolicy now).1
      (router.resolveAuto dataset authPolicy now).2 := by
  intro claimed
  have routes := claimed indifferent "equity.ohlcv".toList .preferNoAuth 0
  have raised : (indifferent.resolveAuto "equity.ohlcv".toList .preferNoAuth 0).2 =
    .error (.noHealthyProvider "equity.ohlcv".toList ["KBS".toList] []) := rfl
  have hopeless := (routes.unhealthy.mp ⟨_,_,raised⟩).2 kbsPlugin
  apply hopeless
  refine ⟨List.mem_filter.mpr ⟨List.mem_singleton.mpr rfl,by decide⟩,?_,rfl⟩
  intro filtered
  rcases filtered with explicit | disabled | ⟨_,cooling⟩ | turned
  · cases explicit
  · cases disabled
  · cases cooling
  · cases turned

end PluginRouter
end OpenStock.Providers
