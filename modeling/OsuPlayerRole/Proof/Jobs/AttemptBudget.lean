/-
This file shows when every job stays within its attempts.
-/
import OsuPlayerRole.Library.EventRun
import OsuPlayerRole.Proof.Jobs.QueueStep
import OsuPlayerRole.Proof.Sample

namespace OsuPlayerRole.JobWorker

open Jobs

/-- Each claim is counted, and a pending job has an attempt to spare. -/
structure Budget (tables : Tables) (claims : Nat → Nat) : Prop where
  counted : ∀ row ∈ tables.jobs.rows, (claims row.id : Int) = row.attempts.val
  within : ∀ row ∈ tables.jobs.rows, row.attempts.val ≤ row.maxAttempts.val
  spare : ∀ row ∈ tables.jobs.rows, row.status = .pending → row.attempts.val < row.maxAttempts.val
  unclaimed : ∀ id, tables.jobSequence ≤ id → claims id = 0

section Statements

variable {batchSize : Nat} {now : Timestamp} {tables after : Tables} {claims : Nat → Nat}

/-- A change that counts no attempt needs an attempt to spare where it makes a job pending. -/
theorem Budget.changeWhere {condition : Job → Bool} {change : Job → Job}
    {keeps : ∀ row, (changeWhere condition change row).id = row.id} (budget : Budget tables claims)
    (same : ∀ row, (change row).id = row.id ∧ (change row).attempts = row.attempts ∧
      (change row).maxAttempts = row.maxAttempts)
    (spare : ∀ row ∈ tables.jobs.rows, condition row = true → (change row).status = .pending →
      row.attempts.val < row.maxAttempts.val) :
    Budget (updateJobs tables (Jobs.changeWhere condition change) keeps) claims := by
  refine ⟨fun row member => ?_, fun row member => ?_, fun row member pending => ?_, budget.unclaimed⟩
  · obtain ⟨old, _⟩ | ⟨old, inside, _, rfl⟩ := mem_changeWhere member
    · exact budget.counted row old
    · rw [(same old).1, (same old).2.1]
      exact budget.counted old inside
  · obtain ⟨old, _⟩ | ⟨old, inside, _, rfl⟩ := mem_changeWhere member
    · exact budget.within row old
    · rw [(same old).2.1, (same old).2.2]
      exact budget.within old inside
  · obtain ⟨old, _⟩ | ⟨old, inside, holds, rfl⟩ := mem_changeWhere member
    · exact budget.spare row old pending
    · rw [(same old).2.1, (same old).2.2]
      exact spare old inside holds pending

theorem Budget.deleted (budget : Budget tables claims) (condition : Job → Bool) :
    Budget (deleteJobs tables condition) claims := by
  have old : ∀ row ∈ (deleteJobs tables condition).jobs.rows, row ∈ tables.jobs.rows :=
    fun row member => (KeyedTable.Table.mem_delete.mp member).1
  exact ⟨fun row member => budget.counted row (old row member),
    fun row member => budget.within row (old row member),
    fun row member => budget.spare row (old row member), budget.unclaimed⟩

theorem Budget.enqueued (budget : Budget tables claims) {kind : String} {payload : Json.Value}
    {delaySecs : Nat} (written : tables.enqueue now kind payload delaySecs = .ok after) :
    Budget after claims := by
  have sequence := enqueue_sequence written
  obtain ⟨fresh, new, pending, none_yet, eight, _, _, rows⟩ := enqueue_rows written
  have zero : fresh.attempts.val = 0 := by
    rw [none_yet]
    rfl
  refine ⟨fun row member => ?_, fun row member => ?_, fun row member waiting => ?_, fun id above => ?_⟩
  · obtain old | rfl := (rows row).mp member
    · exact budget.counted row old
    · rw [zero, new, budget.unclaimed _ le_rfl]
      rfl
  · obtain old | rfl := (rows row).mp member
    · exact budget.within row old
    · omega
  · obtain old | rfl := (rows row).mp member
    · exact budget.spare row old waiting
    · omega
  · exact budget.unclaimed id (by omega)

/-- A claim takes pending jobs, so it has an attempt of each to count. -/
theorem Budget.claimed (budget : Budget tables claims) {workerId : String} {skipped : List Nat}
    {order : RowOrder} {jobs : List ClaimedJob}
    (written : claimBatch now workerId batchSize skipped order tables = .ok (jobs, after)) :
    Budget after fun id => if id ∈ jobs.map ClaimedJob.id then claims id + 1 else claims id := by
  obtain ⟨fits, _, rfl⟩ := claimBatch_ok written
  simp only [claimBatch_ids written]
  have counts : ∀ row ∈ tables.jobs.rows,
      ((toClaim now batchSize skipped tables).map Job.id).contains row.id = true →
        (Jobs.claimed now workerId row).attempts.val = row.attempts.val + 1 ∧
          row.attempts.val < row.maxAttempts.val := by
    intro row member named
    have taken := taken_of_id member named
    have pending := (mem_toClaim taken).2
    rw [ready, Bool.and_eq_true, Bool.and_eq_true, decide_eq_true_eq] at pending
    have room := budget.spare row member pending.1.1
    have bound := fits row taken
    have below := row.attempts.property.1
    refine ⟨?_, room⟩
    change (row.attempts.val + 1 + 2 ^ 31) % 2 ^ 32 - 2 ^ 31 = row.attempts.val + 1
    omega
  refine ⟨fun row member => ?_, fun row member => ?_, fun row member pending => ?_, fun id above => ?_⟩
  · obtain ⟨old, unnamed⟩ | ⟨old, inside, named, rfl⟩ := mem_changeWhere member
    · rw [if_neg]
      · exact budget.counted row old
      · rw [← List.contains_iff_mem, unnamed]
        exact Bool.false_ne_true
    · have inside_ids : (Jobs.claimed now workerId old).id ∈
          (toClaim now batchSize skipped tables).map Job.id := List.contains_iff_mem.mp named
      rw [if_pos inside_ids, (counts old inside named).1, ← budget.counted old inside]
      rfl
  · obtain ⟨old, _⟩ | ⟨old, inside, named, rfl⟩ := mem_changeWhere member
    · exact budget.within row old
    · rw [(counts old inside named).1]
      exact (counts old inside named).2
  · obtain ⟨old, _⟩ | ⟨old, inside, named, rfl⟩ := mem_changeWhere member
    · exact budget.spare row old pending
    · cases pending
  · have absent : id ∉ (toClaim now batchSize skipped tables).map Job.id := by
      intro named
      obtain ⟨row, taken, rfl⟩ := List.mem_map.mp named
      exact absurd above (Nat.not_le.mpr (tables.jobsBelow row (mem_toClaim taken).1))
    rw [if_neg absent]
    exact budget.unclaimed id above

end Statements

section Run

variable {texts : ErrorTexts} {batchSize : Nat} {system after : System}

/-- Every job is within its attempts, and so are the claims of it. -/
def Within (system : System) : Prop :=
  ∀ row ∈ system.tables.jobs.rows, row.attempts.val ≤ row.maxAttempts.val ∧
    (system.claims row.id : Int) ≤ row.maxAttempts.val

instance (system : System) : Decidable (Within system) :=
  inferInstanceAs (Decidable (∀ row ∈ system.tables.jobs.rows, row.attempts.val ≤ row.maxAttempts.val ∧
    (system.claims row.id : Int) ≤ row.maxAttempts.val))

/-- A job is made pending again only while it has an attempt to spare. -/
def ReturnsSpare (system : System) : Event → Prop
  | .step index input => ∀ worker ∈ system.workers[index]?, input.refused = false →
      ∀ row ∈ system.tables.jobs.rows, returns system.now worker row = true →
        row.attempts.val < row.maxAttempts.val
  | _ => True

instance (system : System) : ∀ event, Decidable (ReturnsSpare system event)
  | .step index input => inferInstanceAs (Decidable (∀ worker ∈ system.workers[index]?,
      input.refused = false → ∀ row ∈ system.tables.jobs.rows,
        returns system.now worker row = true → row.attempts.val < row.maxAttempts.val))
  | .tick _ => isTrue trivial
  | .enqueue _ _ _ => isTrue trivial
  | .start _ => isTrue trivial
  | .trigger _ => isTrue trivial
  | .crash _ => isTrue trivial
  | .gcDead => isTrue trivial
  | .gcCompleted => isTrue trivial

/-- A step counts its claims, and it returns jobs with an attempt to spare. -/
theorem budget_steps {now : Timestamp} {worker moved : Worker} {tables written : Tables}
    {claims : Nat → Nat} (budget : Budget tables claims)
    (steps : Steps texts batchSize now tables worker moved written)
    (spare : written = tables ∨ ∀ row ∈ tables.jobs.rows, returns now worker row = true →
      row.attempts.val < row.maxAttempts.val) :
    Budget written fun id => if id ∈ newClaims worker moved then claims id + 1 else claims id := by
  have quiet : newClaims worker moved = [] →
      (fun id => if id ∈ newClaims worker moved then claims id + 1 else claims id) = claims := by
    intro none_new
    funext id
    rw [none_new, if_neg List.not_mem_nil]
  cases steps with
  | reaped place due =>
      rw [quiet (newClaims_nil fun claiming => by rw [place] at claiming; cases claiming)]
      obtain same | spare := spare
      · rw [same]
        exact budget
      · refine budget.changeWhere (fun _ => ⟨rfl, rfl, rfl⟩) fun row member old _ => ?_
        exact spare row member (by simp only [returns, place, due, old, decide_true, Bool.and_self])
  | reported job outcome rest jitterMs after place performed =>
      rw [quiet (newClaims_nil fun claiming => by rw [place] at claiming; cases claiming)]
      obtain same | spare := spare
      · rw [same]
        exact budget
      · rw [perform_ok performed]
        refine budget.changeWhere (fun row => ?_) fun row member named pending => ?_
        · cases outcome <;> exact ⟨rfl, rfl, rfl⟩
        · cases outcome with
          | complete => cases pending
          | failDead message => cases pending
          | failRetry message => exact spare row member (by rw [returns, place]; exact named)
  | idle skipped after place claimed =>
      have counted := budget.claimed claimed
      have none_new : newClaims worker { worker with phase := .emptyPause } = [] := by
        rw [newClaims, place]
      rw [none_new]
      exact counted
  | claimed skipped job rest after place claimed =>
      rw [newClaims_batch place rfl]
      exact budget.claimed claimed
  | unclaimed place =>
      rw [quiet (by rw [newClaims, place])]
      exact budget
  | observed guard place told | polled guard place | spared lastReap place
  | released guard job rest place told | started guard job rest place told
  | ended job rest result place | unreported job outcome rest place =>
      rw [quiet (newClaims_nil fun claiming => by rw [place] at claiming; cases claiming)]
      exact budget
  | woken guard place told | again place =>
      rw [quiet (newClaims_nil fun claiming => by rw [claiming] at place; simp at place)]
      exact budget

theorem budget_step {event : Event} (budget : Budget system.tables system.claims)
    (spare : ReturnsSpare system event) (stepped : system.step texts batchSize event = some after) :
    Budget after.tables after.claims := by
  cases event with
  | enqueue kind payload delaySecs =>
      cases stepped
      dsimp only
      split
      · next written => exact budget.enqueued written
      · exact budget
  | trigger index =>
      obtain ⟨worker, _, rfl⟩ := Option.map_eq_some_iff.mp stepped
      exact budget
  | crash index =>
      obtain ⟨worker, _, rfl⟩ := Option.map_eq_some_iff.mp stepped
      exact budget
  | step index input =>
      obtain ⟨worker, moved, written, found, performed, rfl⟩ := step_worker stepped
      refine budget_steps budget (steps_of_step performed) ?_
      cases refused : input.refused with
      | true => exact Or.inl (step_refused refused performed)
      | false => exact Or.inr (spare worker found refused)
  | tick elapsed | start workerId =>
      cases stepped
      exact budget
  | gcDead | gcCompleted =>
      cases stepped
      exact budget.deleted _

theorem Budget.holds (budget : Budget system.tables system.claims) : Within system := by
  intro row member
  have within := budget.within row member
  refine ⟨within, ?_⟩
  rw [budget.counted row member]
  exact within

/-- The attempts are in budget before and after the step. -/
def KeepsWithin (texts : ErrorTexts) (batchSize : Nat) (system : System) (event : Event) : Prop :=
  Within system ∧ ∀ after ∈ system.step texts batchSize event, Within after

instance (texts : ErrorTexts) (batchSize : Nat) (system : System) (event : Event) :
    Decidable (KeepsWithin texts batchSize system event) :=
  inferInstanceAs (Decidable (Within system ∧ ∀ after ∈ system.step texts batchSize event, Within after))

/-- In a run that returns jobs only with an attempt to spare, every job stays within its attempts. -/
theorem attempts_within_budget (texts : ErrorTexts) (batchSize : Nat) (tables : Tables)
    (now : Timestamp) (events : List Event)
    (spare : EventRun.Guarded (System.step texts batchSize) ReturnsSpare (System.begin tables now) events) :
    EventRun.Guarded (System.step texts batchSize) (KeepsWithin texts batchSize)
      (System.begin tables now) events := by
  have start : Budget (System.begin tables now).tables (System.begin tables now).claims :=
    ⟨fun _ impossible => absurd impossible List.not_mem_nil,
      fun _ impossible => absurd impossible List.not_mem_nil,
      fun _ impossible => absurd impossible List.not_mem_nil, fun _ _ => rfl⟩
  refine EventRun.guarded_of_invariant (fun system => Budget system.tables system.claims)
    (fun _ _ _ budget spare stepped => budget_step budget spare stepped)
    (fun before event budget spare => ?_) start spare
  exact ⟨budget.holds, fun after stepped => (budget_step budget spare stepped).holds⟩

end Run

section Spent

/-- A worker claims the job and dies at its dispatch, and the next worker reaps the job. -/
def killed (index : Nat) : List Event :=
  [.start "job-worker", Sample.minutes 46] ++ Sample.steps index 4 ++ [.crash index]

/-- Two attempts are well within the budget. -/
theorem two_attempts_within :
    EventRun.Guarded (System.step Sample.texts batchSize) (KeepsWithin Sample.texts batchSize)
      Sample.noJobs ([Sample.enqueued] ++ killed 0 ++ killed 1) :=
  attempts_within_budget Sample.texts batchSize Tables.empty 0 _ (by decide +kernel)

/-- A job that kills each of its workers is claimed a ninth time. -/
theorem attempts_overspent :
    ¬EventRun.Guarded (System.step Sample.texts batchSize) (KeepsWithin Sample.texts batchSize)
      Sample.noJobs ([Sample.enqueued] ++ (List.range 9).flatMap killed) := by
  decide +kernel

end Spent

end OsuPlayerRole.JobWorker
