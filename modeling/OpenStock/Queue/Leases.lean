import OpenStock.Queue.Invariant

namespace OpenStock.Queue

/- What a history says about leases, apart from the rows that store them. -/

def Event.claimed (event : Event) : Option (ProvisioningJobId × Text) :=
  match event.call,event.reply with
  | .claim workerId _,.ok (.claimed (some job)) => some (job.jobId,workerId)
  | _,_ => none

-- A successful claim or heartbeat grants a lease until an expiry.
def Event.granted (configuration : QueueConfiguration) (event : Event) : Option (ProvisioningJobId × Int) :=
  match event.call,event.reply with
  | .claim _ timestamp,.ok (.claimed (some job)) => some (job.jobId,timestamp + configuration.leaseMs)
  | .heartbeat jobId _ timestamp,.ok _ => some (jobId,timestamp + configuration.leaseMs)
  | _,_ => none

def claims (history : List Event) (id : ProvisioningJobId) : Nat :=
  ((history.filterMap Event.claimed).map Prod.fst).count id

def lastClaimant (history : List Event) (id : ProvisioningJobId) : Option Text :=
  (history.filterMap Event.claimed).lookup id

def lastExpiry (configuration : QueueConfiguration) (history : List Event) (id : ProvisioningJobId) : Option Int :=
  (history.filterMap (Event.granted configuration)).lookup id

-- The call that ends a tenure by its holder, and the calls that recover.
def Call.terminalizes : Call → Option (ProvisioningJobId × Text × Int)
  | .complete jobId workerId _ timestamp => some (jobId,workerId,timestamp)
  | .fail jobId workerId _ timestamp _ => some (jobId,workerId,timestamp)
  | .acknowledgeCancellation jobId workerId _ timestamp => some (jobId,workerId,timestamp)
  | _ => none

def Call.recovers : Call → Option Int
  | .claim _ timestamp => some timestamp
  | .requeueExpired timestamp => some timestamp
  | _ => none

variable {configuration : QueueConfiguration} {id : ProvisioningJobId}

-- A recovery ends a tenure whose lease has run out, and counts nothing.
theorem recovery_set {row : JobRow} (recovery : Recovery timestamp (.update id statement))
    (permitted : statement.Permitted configuration row) :
    row.expiredLease timestamp = true ∧ (statement.set row).attempts = row.attempts ∧
      (statement.set row).status ≠ .running := by
  cases statement with
  | recoverCancelled at_ | recoverFailed at_ | recoverQueued at_ =>
    cases (show at_ = timestamp from recovery)
    exact ⟨permitted.1,rfl,by simp [Update.set]⟩
  | _ => exact absurd recovery (by simp [Recovery])

-- Every write but a claim and a heartbeat leaves the count and the lease of a
-- row that stays RUNNING.
def Quiet : Write → Prop
  | .update _ (.claim _ _ _) => False
  | .update _ (.heartbeat _ _ _) => False
  | .create _ => False
  | _ => True

structure Carried (old row : JobRow) : Prop where
  same : old.jobId = row.jobId
  attempts : old.attempts = row.attempts
  lease : row.status = .running →
    old.status = .running ∧ old.leaseOwner = row.leaseOwner ∧ old.leaseExpiresAtMs = row.leaseExpiresAtMs

theorem quiet_set (quiet : Quiet (.update id statement)) (row : JobRow)
    (permitted : statement.Permitted configuration row) : Carried row (statement.set row) := by
  cases statement with
  | claim worker expires timestamp => cases quiet
  | heartbeat worker expires timestamp => cases quiet
  | prioritize priority timestamp | cancelRunning timestamp => exact ⟨rfl,rfl,fun running => ⟨running,rfl,rfl⟩⟩
  | terminalize worker status result error timestamp =>
    obtain ⟨_,_,value,stored⟩ := permitted
    refine ⟨rfl,rfl,fun running => ?_⟩
    have terminal := (terminal_stored stored).1
    rw [show status = .running from running] at terminal
    cases terminal
  | _ => exact ⟨rfl,rfl,fun running => by cases running⟩

theorem recovery_quiet (recovery : Recovery timestamp write) : Quiet write := by
  cases write with
  | create new => cases recovery
  | prune jobId => trivial
  | update jobId statement => cases statement <;> first | cases recovery; done | trivial

/- Rows across an edit. -/

section edits
variable [Platform] {configuration : QueueConfiguration} {before after : QueueTables} {row : JobRow}

theorem edit_forth (edit : Edit configuration write before after) (inside : row ∈ before.jobs) (valid : Valid before) :
    row ∈ after.jobs ∨ (∃ statement, write = .update row.jobId statement ∧ statement.Permitted configuration row ∧
      statement.set row ∈ after.jobs) ∨ (write = .prune row.jobId ∧ row.status.isTerminal = true ∧
      ∃ gone ∈ after.pruned, gone.jobId = row.jobId ∧ gone.finalStatus = row.status) := by
  cases edit with
  | @update _ target statement present permitted =>
    by_cases same : row.jobId = target.jobId
    · cases Rows.same_row valid.distinct inside present same
      exact .inr (.inl ⟨statement,rfl,permitted,replace_present present statement⟩)
    · exact .inl ((Rows.mem_replace present (statement.set_jobId target).symm).mpr (.inr ⟨inside,by simpa using same⟩))
  | create absent idle shape => exact .inl (List.mem_append_left _ inside)
  | @prune _ target completedAt present terminal unpruned =>
    by_cases same : row.jobId = target.jobId
    · cases Rows.same_row valid.distinct inside present same
      exact .inr (.inr ⟨rfl,terminal,_,List.mem_append_right _ (List.mem_singleton.mpr rfl),rfl,rfl⟩)
    · exact .inl (Rows.mem_remove.mpr ⟨inside,same⟩)

theorem edit_update {id : ProvisioningJobId} (edit : Edit configuration (.update id statement) before after) :
    ∃ target ∈ before.jobs, target.jobId = id ∧ statement.Permitted configuration target ∧
      statement.set target ∈ after.jobs := by
  cases edit with
  | @update _ target _ present permitted => exact ⟨target,present,rfl,permitted,replace_present present statement⟩

theorem edit_back (edit : Edit configuration write before after) (inside : row ∈ after.jobs) :
    (row ∈ before.jobs ∧ ∀ statement, write ≠ .update row.jobId statement) ∨
    (∃ old ∈ before.jobs, ∃ statement, write = .update old.jobId statement ∧ statement.Permitted configuration old ∧
      row = statement.set old) ∨ write = .create row := by
  cases edit with
  | @update _ target statement present permitted =>
    rcases (Rows.mem_replace present (statement.set_jobId target).symm).mp inside with rfl | ⟨kept,other⟩
    · exact .inr (.inl ⟨target,present,statement,rfl,permitted,rfl⟩)
    · refine .inl ⟨kept,fun again same => other ?_⟩
      simp only [Write.update.injEq] at same
      simp [same.1]
  | create absent idle shape =>
    rcases List.mem_append.mp inside with kept | added
    · exact .inl ⟨kept,by simp⟩
    · exact .inr (.inr (List.mem_singleton.mp added ▸ rfl))
  | prune present terminal unpruned => exact .inl ⟨(Rows.mem_remove.mp inside).1,by simp⟩

theorem recoveries_forth (valid : Valid before) (edits : Edits configuration writes before after)
    (recoveries : ∀ write ∈ writes, Recovery timestamp write) (inside : row ∈ before.jobs) : row ∈ after.jobs ∨
    (row.expiredLease timestamp = true ∧
      ∃ next ∈ after.jobs, next.jobId = row.jobId ∧ next.attempts = row.attempts ∧ next.status ≠ .running) := by
  induction edits generalizing row with
  | nil => exact .inl inside
  | cons first rest ih =>
    have others := fun write member => recoveries write (List.mem_cons_of_mem _ member)
    have recovery := recoveries _ List.mem_cons_self
    rcases edit_forth first inside valid with kept | ⟨statement,rfl,permitted,written⟩ | ⟨rfl,_⟩
    · exact ih (edit_valid valid first) others kept
    · obtain ⟨lapsed,attempts,ended⟩ := recovery_set recovery permitted
      refine .inr ⟨lapsed,?_⟩
      rcases ih (edit_valid valid first) others written with kept | ⟨again,_⟩
      · exact ⟨_,kept,by simp,attempts,ended⟩
      · exact absurd (expired_running again) ended
    · cases recovery

theorem quiet_back (edits : Edits configuration writes before after) (quiet : ∀ write ∈ writes, Quiet write)
    (inside : row ∈ after.jobs) : ∃ old ∈ before.jobs, Carried old row := by
  induction edits with
  | nil => exact ⟨row,inside,rfl,rfl,fun running => ⟨running,rfl,rfl⟩⟩
  | cons first rest ih =>
    have still := quiet _ List.mem_cons_self
    obtain ⟨middle,member,carried⟩ := ih (fun write member => quiet write (List.mem_cons_of_mem _ member)) inside
    rcases edit_back first member with ⟨earlier,_⟩ | ⟨old,present,statement,rfl,permitted,rfl⟩ | rfl
    · exact ⟨middle,earlier,carried⟩
    · have now := quiet_set still old permitted
      refine ⟨old,present,now.same.trans carried.same,now.attempts.trans carried.attempts,fun running => ?_⟩
      obtain ⟨status,owner,expires⟩ := carried.lease running
      obtain ⟨oldStatus,oldOwner,oldExpires⟩ := now.lease status
      exact ⟨oldStatus,oldOwner.trans owner,oldExpires.trans expires⟩
    · cases still

end edits

/- The history's account of leases agrees with the rows. -/

structure Ledger (configuration : QueueConfiguration) (history : List Event) (tables : QueueTables) : Prop where
  counted : ∀ row ∈ tables.jobs, claims history row.jobId = row.attempts
  bounded : ∀ id, claims history id ≤ configuration.maxAttempts
  known : ∀ id, claims history id ≠ 0 → id ∈ createdIds history
  held : ∀ row ∈ tables.jobs, row.status = .running →
    lastClaimant history row.jobId = row.leaseOwner ∧
      lastExpiry configuration history row.jobId = row.leaseExpiresAtMs

section histories
variable {configuration : QueueConfiguration} {history : List Event} {event : Event} {id : ProvisioningJobId}

theorem claims_silent (silent : event.claimed = none) : claims (event :: history) id = claims history id := by
  simp [claims,silent]

theorem lastClaimant_silent (silent : event.claimed = none) : lastClaimant (event :: history) id = lastClaimant history id := by
  simp [lastClaimant,silent]

theorem lastExpiry_silent (silent : event.granted configuration = none) :
    lastExpiry configuration (event :: history) id = lastExpiry configuration history id := by
  simp [lastExpiry,silent]

theorem claims_claimed (claimed : event.claimed = some (claimedId,worker)) :
    claims (event :: history) id = claims history id + if claimedId = id then 1 else 0 := by
  simp [claims,claimed,List.count_cons]

theorem lastClaimant_claimed (claimed : event.claimed = some (claimedId,worker)) :
    lastClaimant (event :: history) id = if claimedId = id then some worker else lastClaimant history id := by
  by_cases same : claimedId = id
  · simp [lastClaimant,claimed,same]
  · have other : (id == claimedId) = false := by simpa using Ne.symm same
    simp [lastClaimant,claimed,same,List.lookup_cons,other]

theorem lastExpiry_granted (granted : event.granted configuration = some (grantedId,expires)) :
    lastExpiry configuration (event :: history) id =
      if grantedId = id then some expires else lastExpiry configuration history id := by
  by_cases same : grantedId = id
  · simp [lastExpiry,granted,same]
  · have other : (id == grantedId) = false := by simpa using Ne.symm same
    simp [lastExpiry,granted,same,List.lookup_cons,other]

theorem created_grows (earlier : id ∈ createdIds history) : id ∈ createdIds (event :: history) := by
  obtain ⟨source,listed,created⟩ := List.mem_filterMap.mp earlier
  exact List.mem_filterMap.mpr ⟨source,List.mem_cons_of_mem _ listed,created⟩

end histories

section ledger
variable [Platform] {configuration : QueueConfiguration} {before after : QueueTables} {row : JobRow}
  {id : ProvisioningJobId} {event : Event}

theorem quiet_ledger (ledger : Ledger configuration history before) (edits : Edits configuration writes before after)
    (quiet : ∀ write ∈ writes, Quiet write) (silent : event.claimed = none)
    (ungranted : event.granted configuration = none) : Ledger configuration (event :: history) after := by
  refine ⟨?_,fun id => ?_,fun id counted => ?_,?_⟩
  · intro row inside
    obtain ⟨old,present,carried⟩ := quiet_back edits quiet inside
    rw [claims_silent silent,← carried.same,← carried.attempts]
    exact ledger.counted old present
  · rw [claims_silent silent]
    exact ledger.bounded id
  · rw [claims_silent silent] at counted
    exact created_grows (ledger.known id counted)
  · intro row inside running
    obtain ⟨old,present,carried⟩ := quiet_back edits quiet inside
    obtain ⟨status,owner,expires⟩ := carried.lease running
    rw [lastClaimant_silent silent,lastExpiry_silent ungranted,← carried.same,← owner,← expires]
    exact ledger.held old present status

-- Row by row across the claim: the claimed one is new to its holder, the others
-- are as the recoveries left them.
theorem claim_back (edit : Edit configuration (.update id (.claim worker expires timestamp)) before after)
    (inside : row ∈ after.jobs) : (row.jobId ≠ id ∧ row ∈ before.jobs) ∨
    (row.jobId = id ∧ row.leaseOwner = some worker ∧ row.leaseExpiresAtMs = some expires ∧
      ∃ old ∈ before.jobs, old.jobId = id ∧ row.attempts = old.attempts + 1) := by
  cases edit with
  | @update _ target statement present permitted =>
    rcases (Rows.mem_replace present ((Update.claim worker expires timestamp).set_jobId target).symm).mp inside with
      rfl | ⟨kept,other⟩
    · exact .inr ⟨rfl,rfl,rfl,target,present,rfl,rfl⟩
    · exact .inl ⟨by simpa using other,kept⟩

theorem heartbeat_back (edit : Edit configuration (.update id (.heartbeat worker expires timestamp)) before after)
    (inside : row ∈ after.jobs) : (row.jobId ≠ id ∧ row ∈ before.jobs) ∨ (row.jobId = id ∧ row.leaseExpiresAtMs = some expires ∧
      ∃ old ∈ before.jobs, old.jobId = id ∧ row.attempts = old.attempts ∧ row.leaseOwner = old.leaseOwner ∧
        old.status = .running) := by
  cases edit with
  | @update _ target statement present permitted =>
    rcases (Rows.mem_replace present ((Update.heartbeat worker expires timestamp).set_jobId target).symm).mp inside with
      rfl | ⟨kept,other⟩
    · exact .inr ⟨rfl,rfl,target,present,rfl,rfl,rfl,(live_running permitted.1).1⟩
    · exact .inl ⟨by simpa using other,kept⟩

theorem recovered_ledger (ledger : Ledger configuration history before)
    (edits : Edits configuration writes before after) (recoveries : ∀ write ∈ writes, Recovery timestamp write) :
    Ledger configuration history after := by
  have quiet : ∀ write ∈ writes, Quiet write := fun write inside => recovery_quiet (recoveries write inside)
  refine ⟨?_,ledger.bounded,ledger.known,?_⟩
  · intro row inside
    obtain ⟨old,present,carried⟩ := quiet_back edits quiet inside
    rw [← carried.same,← carried.attempts]
    exact ledger.counted old present
  · intro row inside running
    obtain ⟨old,present,carried⟩ := quiet_back edits quiet inside
    obtain ⟨status,owner,expires⟩ := carried.lease running
    rw [← carried.same,← owner,← expires]
    exact ledger.held old present status

theorem claim_ledger (ledger : Ledger configuration history before) (invariant : ∀ id ∈ before.jobs.map JobRow.jobId,
      id ∈ createdIds history) (sound : ∀ row ∈ after.jobs, row.Sound configuration)
    (edit : Edit configuration (.update id (.claim worker expires timestamp)) before after)
    (claimed : event.claimed = some (id,worker)) (granted : event.granted configuration = some (id,expires)) :
    Ledger configuration (event :: history) after := by
  refine ⟨?_,fun other => ?_,fun other counted => ?_,?_⟩
  · intro row inside
    rw [claims_claimed claimed]
    rcases claim_back edit inside with ⟨other,kept⟩ | ⟨rfl,_,_,old,present,same,attempts⟩
    · rw [if_neg (Ne.symm other)]
      exact ledger.counted row kept
    · rw [if_pos rfl,attempts,← same]
      exact congrArg (· + 1) (ledger.counted old present)
  · rw [claims_claimed claimed]
    by_cases same : id = other
    · subst same
      cases edit with
      | @update _ target statement present permitted =>
        have attempts := (sound _ (replace_present present _)).bounded
        rw [if_pos rfl,ledger.counted target present]
        exact attempts
    · rw [if_neg same]
      exact ledger.bounded other
  · by_cases same : id = other
    · subst same
      cases edit with
      | @update _ target statement present permitted =>
        exact created_grows (invariant _ (List.mem_map_of_mem present))
    · rw [claims_claimed claimed,if_neg same] at counted
      exact created_grows (ledger.known other counted)
  · intro row inside running
    rw [lastClaimant_claimed claimed,lastExpiry_granted granted]
    rcases claim_back edit inside with ⟨other,kept⟩ | ⟨rfl,owner,expiry,_⟩
    · rw [if_neg (Ne.symm other),if_neg (Ne.symm other)]
      exact ledger.held row kept running
    · rw [if_pos rfl,if_pos rfl]
      exact ⟨owner.symm,expiry.symm⟩

theorem heartbeat_ledger (ledger : Ledger configuration history before)
    (edit : Edit configuration (.update id (.heartbeat worker expires timestamp)) before after)
    (silent : event.claimed = none) (granted : event.granted configuration = some (id,expires)) :
    Ledger configuration (event :: history) after := by
  refine ⟨?_,fun other => ?_,fun other counted => ?_,?_⟩
  · intro row inside
    rw [claims_silent silent]
    rcases heartbeat_back edit inside with ⟨_,kept⟩ | ⟨rfl,_,old,present,same,attempts,_⟩
    · exact ledger.counted row kept
    · rw [attempts,← same]
      exact ledger.counted old present
  · rw [claims_silent silent]
    exact ledger.bounded other
  · rw [claims_silent silent] at counted
    exact created_grows (ledger.known other counted)
  · intro row inside running
    rw [lastClaimant_silent silent,lastExpiry_granted granted]
    rcases heartbeat_back edit inside with ⟨other,kept⟩ | ⟨rfl,expiry,old,present,same,_,owner,status⟩
    · rw [if_neg (Ne.symm other)]
      exact ledger.held row kept running
    · rw [if_pos rfl,expiry,owner,← same]
      exact ⟨(ledger.held old present status).1,rfl⟩

theorem created_ledger (ledger : Ledger configuration history before) (fresh : new.jobId ∉ createdIds history)
    (edit : Edit configuration (.create new) before after) (silent : event.claimed = none)
    (ungranted : event.granted configuration = none) : Ledger configuration (event :: history) after := by
  cases edit with
  | create absent idle shape =>
    refine ⟨?_,fun other => ?_,fun other counted => ?_,?_⟩
    · intro row inside
      rw [claims_silent silent]
      rcases List.mem_append.mp inside with kept | added
      · exact ledger.counted row kept
      · rw [List.mem_singleton.mp added]
        have uncounted : claims history new.jobId = 0 := by
          by_contra counted
          exact fresh (ledger.known new.jobId counted)
        rw [uncounted,shape]
        rfl
    · rw [claims_silent silent]
      exact ledger.bounded other
    · rw [claims_silent silent] at counted
      exact created_grows (ledger.known other counted)
    · intro row inside running
      rw [lastClaimant_silent silent,lastExpiry_silent ungranted]
      rcases List.mem_append.mp inside with kept | added
      · exact ledger.held row kept running
      · rw [List.mem_singleton.mp added,shape] at running
        cases running

theorem tables_known (invariant : QueueInvariant configuration history before) :
    ∀ id ∈ before.jobs.map JobRow.jobId, id ∈ createdIds history :=
  fun _ inside => invariant.accounted.mem_iff.mp (List.mem_append_left _ inside)

theorem step_ledger (invariant : QueueInvariant configuration history before) (ledger : Ledger configuration history before)
    (step : QueueStep configuration history before event after) : Ledger configuration (event :: history) after := by
  have next := step_invariant invariant step
  obtain ⟨writes,edits,performed⟩ := run_performs invariant.valid event.call step.ran
  obtain ⟨call,reply⟩ := event
  cases performed with
  | refused => exact quiet_ledger ledger edits (by simp) (by cases call <;> rfl) (by cases call <;> rfl)
  | created named =>
    refine created_ledger ledger ?_ edits.only rfl rfl
    have distinct := next.distinct
    simp only [createdIds,List.filterMap_cons,Event.createdId] at distinct
    rw [named] at distinct
    exact (List.nodup_cons.mp distinct).1
  | joinedQueued queued => exact quiet_ledger ledger edits (by simp [Quiet]) rfl rfl
  | joinedRunning running => exact quiet_ledger ledger edits (by simp) rfl rfl
  | idle recoveries =>
    exact quiet_ledger ledger edits (fun write inside => recovery_quiet (recoveries write inside)) rfl rfl
  | claimed recoveries =>
    obtain ⟨middle,recovered,claiming⟩ := edits.split
    have known : ∀ id ∈ middle.jobs.map JobRow.jobId, id ∈ createdIds history := by
      have ids := edits_ids invariant.valid recovered
      rw [recovery_creates recoveries,List.nil_append] at ids
      exact fun id inside => (ids.trans invariant.accounted).mem_iff.mp (List.mem_append_left _ inside)
    exact claim_ledger (recovered_ledger ledger recovered recoveries) known next.sound claiming.only rfl rfl
  | heartbeat named => exact heartbeat_ledger ledger edits.only rfl rfl
  | requeued recoveries =>
    exact quiet_ledger ledger edits (fun write inside => recovery_quiet (recoveries write inside)) rfl rfl
  | pruned removals =>
    refine quiet_ledger ledger edits ?_ rfl rfl
    intro write inside
    obtain ⟨jobId,rfl⟩ := removals write inside
    trivial
  | _ => exact quiet_ledger ledger edits (by simp [Quiet]) rfl rfl

theorem runs_ledger (path : QueueRuns configuration history before) : Ledger configuration history before := by
  refine path.invariant ?_ (fun path ledger step => step_ledger (runs_invariant path) ledger step)
  exact ⟨by simp [emptyTables],by simp [claims],by simp [claims],by simp [emptyTables]⟩

end ledger

/- What may happen to one row in one call. -/

-- The row is still held under the same claim.
def JobRow.Tenured (row next : JobRow) : Prop :=
  next.jobId = row.jobId ∧ next.status = .running ∧ next.attempts = row.attempts ∧ next.leaseOwner = row.leaseOwner

section rows
variable {configuration : QueueConfiguration} {row : JobRow}

theorem live_expiry (live : row.liveLease worker timestamp = true) :
    ∃ expires, row.leaseExpiresAtMs = some expires ∧ timestamp < expires := by
  simp only [JobRow.liveLease,Bool.and_eq_true] at live
  cases stored : row.leaseExpiresAtMs with
  | none => simp [stored] at live
  | some expires => exact ⟨expires,rfl,by simpa [stored] using live.2⟩

theorem lapsed_expiry (lapsed : row.expiredLease timestamp = true) :
    ∃ expires, row.leaseExpiresAtMs = some expires ∧ expires ≤ timestamp := by
  simp only [JobRow.expiredLease,Bool.and_eq_true] at lapsed
  cases stored : row.leaseExpiresAtMs with
  | none => simp [stored] at lapsed
  | some expires => exact ⟨expires,rfl,by simpa [stored] using lapsed.2⟩

-- A statement on a RUNNING row that is neither terminal nor a recovery keeps it.
theorem tenured_set (statement : Update) (permitted : statement.Permitted configuration row) (running : row.status = .running) :
    row.Tenured (statement.set row) ∨
    (∃ worker result error status timestamp, statement = .terminalize worker status result error timestamp ∧
      row.liveLease worker timestamp = true) ∨
    (∃ worker error available timestamp, statement = .retry worker error available timestamp ∧
      row.liveLease worker timestamp = true) ∨ ∃ timestamp, Recovery timestamp (.update row.jobId statement) := by
  cases statement with
  | prioritize priority timestamp => exact .inl ⟨rfl,running,rfl,rfl⟩
  | claim worker expires timestamp => exact absurd (running.symm.trans permitted.1) (by decide)
  | heartbeat worker expires timestamp => exact .inl ⟨rfl,running,rfl,rfl⟩
  | recoverCancelled timestamp | recoverFailed timestamp | recoverQueued timestamp => exact .inr (.inr (.inr ⟨timestamp,rfl⟩))
  | retry worker error available timestamp => exact .inr (.inr (.inl ⟨_,_,_,_,rfl,permitted.1⟩))
  | terminalize worker status result error timestamp => exact .inr (.inl ⟨_,_,_,_,_,rfl,permitted.1⟩)
  | cancelQueued timestamp => exact absurd (running.symm.trans permitted) (by decide)
  | cancelRunning timestamp => exact .inl ⟨rfl,running,rfl,rfl⟩

-- How a RUNNING row leaves its tenure: its holder ends it in time, or a call
-- that recovers finds the lease run out.
def Departs (configuration : QueueConfiguration) (history : List Event) (call : Call) (row : JobRow) : Prop :=
  (∃ worker timestamp expires, call.terminalizes = some (row.jobId,worker,timestamp) ∧
    lastClaimant history row.jobId = some worker ∧
    lastExpiry configuration history row.jobId = some expires ∧ timestamp < expires) ∨
  ∃ timestamp expires, call.recovers = some timestamp ∧
    lastExpiry configuration history row.jobId = some expires ∧ expires ≤ timestamp

variable {before : QueueTables}

theorem terminal_departs (ledger : Ledger configuration history before) (inside : row ∈ before.jobs)
    (live : row.liveLease worker timestamp = true) (terminalizes : call.terminalizes = some (row.jobId,worker,timestamp)) :
    Departs configuration history call row := by
  obtain ⟨running,owner⟩ := live_running live
  obtain ⟨claimant,expiry⟩ := ledger.held row inside running
  obtain ⟨expires,stored,inTime⟩ := live_expiry live
  exact .inl ⟨worker,timestamp,expires,terminalizes,claimant.trans owner,expiry.trans stored,inTime⟩

theorem recovered_departs (ledger : Ledger configuration history before) (inside : row ∈ before.jobs)
    (lapsed : row.expiredLease timestamp = true) (recovers : call.recovers = some timestamp) :
    Departs configuration history call row := by
  obtain ⟨_,expiry⟩ := ledger.held row inside (expired_running lapsed)
  obtain ⟨expires,stored,late⟩ := lapsed_expiry lapsed
  exact .inr ⟨timestamp,expires,recovers,expiry.trans stored,late⟩

end rows

section ledger
variable [Platform] {configuration : QueueConfiguration} {before after : QueueTables} {row : JobRow}
  {id : ProvisioningJobId} {event : Event}

theorem edit_pruned (edit : Edit configuration write before after) (inside : gone ∈ before.pruned) : gone ∈ after.pruned := by
  cases edit with
  | update present permitted | create absent idle shape => exact inside
  | prune present terminal unpruned => exact List.mem_append_left _ inside

theorem edits_pruned (edits : Edits configuration writes before after) (inside : gone ∈ before.pruned) :
    gone ∈ after.pruned := by
  induction edits with
  | nil => exact inside
  | cons first _ ih => exact ih (edit_pruned first inside)

theorem terminal_forth (valid : Valid before) (edits : Edits configuration writes before after)
    (inside : row ∈ before.jobs) (ended : row.status.isTerminal = true) : row ∈ after.jobs ∨ (Write.prune row.jobId ∈ writes ∧
      ∃ gone ∈ after.pruned, gone.jobId = row.jobId ∧ gone.finalStatus = row.status) := by
  induction edits with
  | nil => exact .inl inside
  | cons first rest ih =>
    rcases edit_forth first inside valid with kept | ⟨statement,_,permitted,_⟩ | ⟨rfl,_,gone,listed,same⟩
    · rcases ih (edit_valid valid first) kept with stays | ⟨later,removed⟩
      · exact .inl stays
      · exact .inr ⟨List.mem_cons_of_mem _ later,removed⟩
    · have active := permitted_active statement permitted
      cases status : row.status <;> simp_all [ProvisioningJobStatus.isActive,ProvisioningJobStatus.isTerminal]
    · exact .inr ⟨List.mem_cons_self,gone,edits_pruned rest listed,same⟩

theorem single_forth (valid : Valid before) (edit : Edit configuration (.update id statement) before after)
    (inside : row ∈ before.jobs) :
    row ∈ after.jobs ∨ (id = row.jobId ∧ statement.Permitted configuration row ∧ statement.set row ∈ after.jobs) := by
  rcases edit_forth edit inside valid with kept | ⟨other,same,permitted,written⟩ | ⟨impossible,_⟩
  · exact .inl kept
  · cases same
    exact .inr ⟨rfl,permitted,written⟩
  · cases impossible

theorem pruned_keeps (valid : Valid before) (edits : Edits configuration writes before after)
    (removals : ∀ write ∈ writes, ∃ jobId, write = .prune jobId) (inside : row ∈ before.jobs)
    (live : row.status.isTerminal = false) : row ∈ after.jobs := by
  induction edits with
  | nil => exact inside
  | cons first rest ih =>
    obtain ⟨jobId,rfl⟩ := removals _ List.mem_cons_self
    rcases edit_forth first inside valid with kept | ⟨_,impossible,_⟩ | ⟨_,terminal,_⟩
    · exact ih (edit_valid valid first) (fun write member => removals write (List.mem_cons_of_mem _ member)) kept
    · cases impossible
    · rw [live] at terminal
      cases terminal

-- A single statement that is no recovery: only a terminal write by the live
-- holder ends the tenure.
theorem single_departure (valid : Valid before) (edit : Edit configuration (.update id statement) before after)
    (inside : row ∈ before.jobs) (running : row.status = .running)
    (unrecovered : ∀ timestamp, ¬ Recovery timestamp (.update id statement)) : (∃ next ∈ after.jobs, row.Tenured next) ∨
    (id = row.jobId ∧ ∃ worker timestamp, row.liveLease worker timestamp = true ∧
      ((∃ result error status, statement = .terminalize worker status result error timestamp) ∨
      ∃ error available, statement = .retry worker error available timestamp)) := by
  rcases single_forth valid edit inside with kept | ⟨rfl,permitted,written⟩
  · exact .inl ⟨row,kept,rfl,running,rfl,rfl⟩
  · rcases tenured_set statement permitted running with tenured | ⟨worker,result,error,status,timestamp,rfl,live⟩ |
      ⟨worker,error,available,timestamp,rfl,live⟩ | ⟨timestamp,recovery⟩
    · exact .inl ⟨_,written,tenured⟩
    · exact .inr ⟨rfl,worker,timestamp,live,.inl ⟨_,_,_,rfl⟩⟩
    · exact .inr ⟨rfl,worker,timestamp,live,.inr ⟨_,_,rfl⟩⟩
    · exact absurd recovery (unrecovered timestamp)

theorem running_forth (invariant : QueueInvariant configuration history before)
    (ledger : Ledger configuration history before) (step : QueueStep configuration history before event after)
    (inside : row ∈ before.jobs) (running : row.status = .running) :
    (∃ next ∈ after.jobs, row.Tenured next) ∨ Departs configuration history event.call row := by
  obtain ⟨writes,edits,performed⟩ := run_performs invariant.valid event.call step.ran
  have stays : row ∈ after.jobs → (∃ next ∈ after.jobs, row.Tenured next) ∨
      Departs configuration history event.call row := fun kept => .inl ⟨row,kept,rfl,running,rfl,rfl⟩
  have valid := invariant.valid
  obtain ⟨call,reply⟩ := event
  cases performed with
  | refused | joinedRunning running =>
    cases edits
    exact stays inside
  | created named =>
    rcases edit_forth edits.only inside valid with kept | ⟨_,impossible,_⟩ | ⟨impossible,_⟩
    · exact stays kept
    · cases impossible
    · cases impossible
  | joinedQueued queued =>
    rcases single_departure valid edits.only inside running (fun _ recovery => recovery) with
      tenured | ⟨_,_,_,_,⟨_,_,_,impossible⟩ | ⟨_,_,impossible⟩⟩
    · exact .inl tenured
    · cases impossible
    · cases impossible
  | idle recoveries | requeued recoveries =>
    rcases recoveries_forth valid edits recoveries inside with kept | ⟨lapsed,_⟩
    · exact stays kept
    · exact .inr (recovered_departs ledger inside lapsed rfl)
  | claimed recoveries =>
    obtain ⟨middle,recovered,claiming⟩ := edits.split
    rcases recoveries_forth valid recovered recoveries inside with kept | ⟨lapsed,_⟩
    · rcases single_departure (edits_valid valid recovered) claiming.only kept running (fun _ recovery => recovery) with
        tenured | ⟨_,_,_,_,⟨_,_,_,impossible⟩ | ⟨_,_,impossible⟩⟩
      · exact .inl tenured
      · cases impossible
      · cases impossible
    · exact .inr (recovered_departs ledger inside lapsed rfl)
  | heartbeat named | cancelledQueued named ended | cancelledRunning named ended =>
    rcases single_departure valid edits.only inside running (fun _ recovery => recovery) with
      tenured | ⟨_,_,_,_,⟨_,_,_,impossible⟩ | ⟨_,_,impossible⟩⟩
    · exact .inl tenured
    · cases impossible
    · cases impossible
  | completed named | failed named terminal | acknowledged named =>
    rcases single_departure valid edits.only inside running (fun _ recovery => recovery) with
      tenured | ⟨rfl,worker,at_,live,⟨_,_,_,same⟩ | ⟨_,_,impossible⟩⟩
    · exact .inl tenured
    · cases same
      exact .inr (terminal_departs ledger inside live rfl)
    · cases impossible
  | retried named again =>
    rcases single_departure valid edits.only inside running (fun _ recovery => recovery) with
      tenured | ⟨rfl,worker,at_,live,⟨_,_,_,impossible⟩ | ⟨_,_,same⟩⟩
    · exact .inl tenured
    · cases impossible
    · cases same
      exact .inr (terminal_departs ledger inside live rfl)
  | pruned removals =>
    exact stays (pruned_keeps valid edits removals inside (by rw [running]; rfl))

theorem heartbeat_forth (invariant : QueueInvariant configuration history before)
    (ledger : Ledger configuration history before) (step : QueueStep configuration history before event after)
    (beat : event.call = .heartbeat jobId worker timestamp) (inside : row ∈ before.jobs) : row ∈ after.jobs ∨
    (jobId = row.jobId ∧ lastClaimant history row.jobId = some worker ∧
      ∃ expires, lastExpiry configuration history row.jobId = some expires ∧ timestamp < expires) := by
  obtain ⟨writes,edits,performed⟩ := run_performs invariant.valid event.call step.ran
  obtain ⟨call,reply⟩ := event
  cases (show call = _ from beat)
  cases performed with
  | refused =>
    cases edits
    exact .inl inside
  | heartbeat named =>
    rcases single_forth invariant.valid edits.only inside with kept | ⟨rfl,permitted,_⟩
    · exact .inl kept
    · obtain ⟨running,owner⟩ := live_running permitted.1
      obtain ⟨claimant,expiry⟩ := ledger.held row inside running
      obtain ⟨expires,stored,inTime⟩ := live_expiry permitted.1
      exact .inr ⟨rfl,claimant.trans owner,expires,expiry.trans stored,inTime⟩

theorem terminal_stays (invariant : QueueInvariant configuration history before)
    (step : QueueStep configuration history before event after) (inside : row ∈ before.jobs)
    (ended : row.status.isTerminal = true) : row ∈ after.jobs ∨
    ((∃ olderThanDays retained completedAt, event.call = .prune olderThanDays retained completedAt) ∧
      ∃ gone ∈ after.pruned, gone.jobId = row.jobId ∧ gone.finalStatus = row.status) := by
  obtain ⟨writes,edits,performed⟩ := run_performs invariant.valid event.call step.ran
  rcases terminal_forth invariant.valid edits inside ended with kept | ⟨removed,gone⟩
  · exact .inl kept
  · obtain ⟨call,reply⟩ := event
    have recovers : ∀ {timestamp} {writes : List Write}, Write.prune row.jobId ∈ writes →
        ¬ ∀ write ∈ writes, Recovery timestamp write := fun removed recoveries => recoveries _ removed
    cases performed with
    | pruned removals => exact .inr ⟨⟨_,_,_,rfl⟩,gone⟩
    | idle recoveries | requeued recoveries => exact absurd recoveries (recovers removed)
    | claimed recoveries =>
      rcases List.mem_append.mp removed with earlier | last
      · exact absurd recoveries (recovers earlier)
      · simp at last
    | _ => simp at removed

-- Lease safety over every run of the queue's operations.
theorem leases_exclusive (path : QueueRuns configuration history before) :
    (∀ row ∈ before.jobs, claims history row.jobId = row.attempts) ∧ (∀ id, claims history id ≤ configuration.maxAttempts) ∧
    ∀ event after, QueueStep configuration history before event after → (∀ row ∈ before.jobs, row.status = .running →
        (∃ next ∈ after.jobs, row.Tenured next) ∨ Departs configuration history event.call row) ∧
      (∀ jobId worker timestamp, event.call = .heartbeat jobId worker timestamp → ∀ row ∈ before.jobs, row ∈ after.jobs ∨
          (jobId = row.jobId ∧ lastClaimant history row.jobId = some worker ∧
            ∃ expires, lastExpiry configuration history row.jobId = some expires ∧ timestamp < expires)) ∧
      ∀ row ∈ before.jobs, row.status.isTerminal = true → row ∈ after.jobs ∨
        ((∃ olderThanDays retained completedAt, event.call = .prune olderThanDays retained completedAt) ∧
          ∃ gone ∈ after.pruned, gone.jobId = row.jobId ∧ gone.finalStatus = row.status) := by
  have invariant := runs_invariant path
  have ledger := runs_ledger path
  refine ⟨ledger.counted,ledger.bounded,fun event after step => ⟨fun row inside running => ?_,?_,?_⟩⟩
  · exact running_forth invariant ledger step inside running
  · intro jobId worker timestamp beat row inside
    exact heartbeat_forth invariant ledger step beat inside
  · intro row inside ended
    exact terminal_stays invariant step inside ended

end ledger

theorem leases_exclusive_sample : (@performed samplePlatform defaultConfiguration sampleCalls).2.jobs.all (fun row =>
      claims (@performed samplePlatform defaultConfiguration sampleCalls).1 row.jobId = row.attempts ∧
        row.attempts ≤ 3) = true := by
  have safe := @leases_exclusive samplePlatform _ _ _
    (@performed_runs samplePlatform defaultConfiguration sampleCalls (by decide))
  rw [List.all_eq_true]
  intro row inside
  have counted := safe.1 row inside
  exact decide_eq_true ⟨counted,counted ▸ safe.2.1 row.jobId⟩

end OpenStock.Queue
