import OpenStock.Foundations.Rows
import OpenStock.Foundations.Text

namespace OpenStock.Providers
open Text

/- The health of a provider for a dataset. Times are seconds. -/

inductive HealthStatus where
  | healthy
  | degraded
  | failing
  | unknown
  | disabled
deriving DecidableEq

structure ProviderHealth where
  provider : Text
  dataset : Text
  status : HealthStatus
  latencyMs : Option ℚ
  freshnessScore : Option ℚ
  lastSuccessAt : Option ℚ
  lastFailureAt : Option ℚ
  failureCount : Int
  successCount : Int
  cooldownUntil : Option ℚ
  notes : Option Text

variable (health : ProviderHealth)

namespace ProviderHealth

def untracked (provider dataset : Text) : ProviderHealth :=
  ⟨provider,dataset,.unknown,none,none,none,none,0,0,none,none⟩

def isInCooldown (health : ProviderHealth) (now : ℚ) : Bool :=
  match health.cooldownUntil with
  | none => false
  | some ends => now < ends

def key (health : ProviderHealth) : Text × Text := (upper health.provider,health.dataset)

-- `record_success` on the record it found.
def succeeded (health : ProviderHealth) (provider dataset : Text) (latencyMs freshnessScore : Option ℚ) (now : ℚ) :
    ProviderHealth :=
  {health with
    provider:=upper provider
    dataset:=dataset
    status:=.healthy
    lastSuccessAt:=some now
    failureCount:=0
    cooldownUntil:=none
    successCount:=health.successCount + 1
    latencyMs:=latencyMs.or health.latencyMs
    freshnessScore:=freshnessScore.or health.freshnessScore}

-- `record_failure` on the record it found.
def failed (health : ProviderHealth) (provider dataset : Text) (notes : Option Text) (threshold : Int) (cooldown now : ℚ) :
    ProviderHealth :=
  let health := {health with
    provider:=upper provider
    dataset:=dataset
    lastFailureAt:=some now
    failureCount:=health.failureCount + 1
    notes:=match notes with
      | none => health.notes
      | some text => if text = [] then health.notes else some text}
  if threshold ≤ health.failureCount then {health with status:=.failing,cooldownUntil:=some (now + cooldown)}
  else if health.failureCount = 1 ∧ health.status = .healthy then {health with status:=.degraded}
  else if health.status = .unknown then {health with status:=.degraded}
  else health

variable (provider dataset : Text)

@[simp] theorem succeeded_key (latencyMs freshnessScore : Option ℚ)
    (now : ℚ) : (health.succeeded provider dataset latencyMs freshnessScore now).key = (upper provider,dataset) := by
  simp [succeeded,key,upper_upper]

-- All that a failure does: it counts, and it starts a cooldown where it makes the
-- provider failing.
theorem failed_cases (notes : Option Text) (threshold : Int)
    (cooldown now : ℚ) : (health.failed provider dataset notes threshold cooldown now).key = (upper provider,dataset) ∧
      (health.failed provider dataset notes threshold cooldown now).failureCount = health.failureCount + 1 ∧
      ((health.failed provider dataset notes threshold cooldown now).status = .failing ∧
          (health.failed provider dataset notes threshold cooldown now).cooldownUntil = some (now + cooldown) ∧
          threshold ≤ health.failureCount + 1 ∨
        ((health.failed provider dataset notes threshold cooldown now).status = health.status ∨
          (health.failed provider dataset notes threshold cooldown now).status = .degraded ∧
            (health.status = .healthy ∨ health.status = .unknown)) ∧
          (health.failed provider dataset notes threshold cooldown now).cooldownUntil = health.cooldownUntil ∧
          health.failureCount + 1 < threshold) := by
  unfold failed
  dsimp only
  by_cases reached : threshold ≤ health.failureCount + 1
  · rw [if_pos reached]
    exact ⟨by simp [key,upper_upper],rfl,.inl ⟨rfl,rfl,reached⟩⟩
  · rw [if_neg reached]
    have below : health.failureCount + 1 < threshold := by omega
    by_cases first : health.failureCount + 1 = 1 ∧ health.status = .healthy
    · rw [if_pos first]
      exact ⟨by simp [key,upper_upper],rfl,.inr ⟨.inr ⟨rfl,.inl first.2⟩,rfl,below⟩⟩
    · rw [if_neg first]
      by_cases unseen : health.status = .unknown
      · rw [if_pos unseen]
        exact ⟨by simp [key,upper_upper],rfl,.inr ⟨.inr ⟨rfl,.inr unseen⟩,rfl,below⟩⟩
      · rw [if_neg unseen]
        exact ⟨by simp [key,upper_upper],rfl,.inr ⟨.inl rfl,rfl,below⟩⟩

end ProviderHealth

/- The store in memory. -/

structure HealthStore where
  failureThreshold : Int
  cooldownSeconds : ℚ
  records : List ProviderHealth

namespace HealthStore

def get (store : HealthStore) (provider dataset : Text) : ProviderHealth :=
  (store.records.find? (fun health => health.key = (upper provider,dataset))).getD
    (.untracked (upper provider) dataset)

def set (store : HealthStore) (health : ProviderHealth) : HealthStore :=
  {store with records:=Rows.upsert ProviderHealth.key store.records health}

def recordSuccess (store : HealthStore) (provider dataset : Text) (latencyMs freshnessScore : Option ℚ) (now : ℚ) : HealthStore :=
  store.set ((store.get provider dataset).succeeded provider dataset latencyMs freshnessScore now)

def recordFailure (store : HealthStore) (provider dataset : Text) (notes : Option Text) (failureThreshold : Option Int)
    (cooldownSeconds : Option ℚ) (now : ℚ) : HealthStore :=
  store.set ((store.get provider dataset).failed provider dataset notes (failureThreshold.getD store.failureThreshold)
    (cooldownSeconds.getD store.cooldownSeconds) now)

def listForDataset (store : HealthStore) (dataset : Text) : List ProviderHealth :=
  store.records.filter (fun health => health.dataset = dataset)

variable (store : HealthStore)

theorem get_set (health : ProviderHealth) (provider dataset : Text) : (store.set health).get provider dataset =
      if (upper provider,dataset) = health.key then health else store.get provider dataset := by
  unfold get set
  rw [Rows.find_upsert]
  split
  · rfl
  · rfl

variable (provider dataset other target : Text)

theorem get_recordSuccess (latencyMs freshnessScore : Option ℚ)
    (now : ℚ) : (store.recordSuccess provider dataset latencyMs freshnessScore now).get other target =
      if (upper other,target) = (upper provider,dataset) then
        (store.get provider dataset).succeeded provider dataset latencyMs freshnessScore now else store.get other target := by
  rw [recordSuccess,get_set,ProviderHealth.succeeded_key]

theorem get_recordFailure (notes : Option Text) (failureThreshold : Option Int) (cooldownSeconds : Option ℚ) (now : ℚ) :
    (store.recordFailure provider dataset notes failureThreshold cooldownSeconds now).get other target =
      if (upper other,target) = (upper provider,dataset) then
        (store.get provider dataset).failed provider dataset notes (failureThreshold.getD store.failureThreshold)
          (cooldownSeconds.getD store.cooldownSeconds) now else store.get other target := by
  rw [recordFailure,get_set,(ProviderHealth.failed_cases _ _ _ _ _ _ _).1]

end HealthStore
end OpenStock.Providers
