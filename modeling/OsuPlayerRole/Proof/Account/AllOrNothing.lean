/-
This file shows when a change of accounts and its job are all or nothing.
-/
import OsuPlayerRole.Proof.Account.AccountStages

namespace OsuPlayerRole.AccountStore

open Web Resumption Program KeyedTable

/-- The accounts are as they were. -/
def Unchanged (before after : Tables) : Prop :=
  after.osuUsers = before.osuUsers ∧ after.osuStats = before.osuStats

/-- The whole change and its job are there. -/
def Everything (state : AppState) (before after : Tables) : Prop :=
  ∃ discordId changed, Changed state before discordId changed ∧ QueueKept before changed ∧
    Enqueued changed discordId after

/-- The change and its job are durable together or not at all, and an error leaves the accounts. -/
structure AllOrNothing (state : AppState) (before : Tables) (outcome : Option (Except AppError Unit))
    (after : Tables) : Prop where
  together : Unchanged before after ∧ after.jobs = before.jobs ∨ Everything state before after
  harmless : ∀ error, outcome = some (.error error) → Unchanged before after

/-- An operation that changes the durable accounts is followed by one more operation, without a
failure. -/
def Undisturbed (state : AppState) (course : Course) (remaining : Nat) (world : World)
    (operation : StoreOp) : Prop :=
  ¬Unchanged world.store.durable (world.perform state course operation).2.store.durable →
    0 < remaining ∧ course.fails (world.performed + 1) = none

section

variable {state : AppState} {course : Course} {before : Tables} {world : World} {stage : Stage}

theorem Kept.unchanged {after : Tables} (kept : Kept before after) : Unchanged before after :=
  ⟨kept.osuUsers, kept.osuStats⟩

/-- Without its job, a change is all or nothing only when it changes nothing. -/
theorem lost_iff {outcome : Option (Except AppError Unit)} {after : Tables}
    (queue : QueueKept before after) :
    AllOrNothing state before outcome after ↔ Unchanged before after := by
  constructor
  · rintro ⟨together, _⟩
    obtain ⟨unchanged, _⟩ | ⟨discordId, changed, _, kept, _, _, job, fresh, _, rows⟩ := together
    · exact unchanged
    · have inside : job ∈ before.jobs.rows := by
        rw [← queue.1]
        exact (rows job).mpr (Or.inr rfl)
      have below := before.jobsBelow job inside
      rw [fresh, kept.2] at below
      exact absurd below (Nat.lt_irrefl _)
  · intro unchanged
    exact ⟨Or.inl ⟨unchanged, queue.1⟩, fun _ _ => unchanged⟩

/-- A route without its job is over with an error. -/
theorem lost_fails {program : StoreProgram Unit} (follows : Follows stages Ends .lost program) :
    ∃ error, program = .fail error := by
  cases program with
  | done value => exact follows.elim
  | fail error => exact ⟨error, rfl⟩
  | call operation next => exact follows.1.elim

/-- A route with its job is over with a success. -/
theorem queued_done {A : Type} {discordId : DiscordId} {program : StoreProgram A}
    (follows : Follows stages Ends (.queued discordId) program) : ∃ value, program = .done value := by
  cases program with
  | done value => exact ⟨value, rfl⟩
  | fail error => exact follows.elim
  | call operation next => exact follows.1.elim

/-- After a change, only the next operation decides. -/
theorem changed_iff {discordId : DiscordId} {program : StoreProgram Unit} {count : Nat}
    (related : Related state before world.store (.changed discordId))
    (follows : Follows stages Ends (.changed discordId) program) :
    (AllOrNothing state before (program.runFor (World.perform state course) count world).1
        (program.runFor (World.perform state course) count world).2.store.durable ↔
      (¬Unchanged before world.store.durable →
        0 < count ∧ course.fails world.performed = none)) ∧
      AlongFor (World.perform state course) (Undisturbed state course) count world program := by
  obtain ⟨changed, queue, sent⟩ := related
  cases program with
  | done value => exact follows.elim
  | fail error => exact follows.elim
  | call operation next =>
      obtain rfl := admits_changed follows.1
      cases count with
      | zero =>
          refine ⟨(lost_iff queue).trans ⟨fun unchanged moved => absurd unchanged moved, fun served => ?_⟩, trivial⟩
          by_contra moved
          exact absurd (served moved).1 (Nat.lt_irrefl 0)
      | succ count =>
          cases failed : course.fails world.performed with
          | some error =>
              have performed : world.perform state course (.web (.enqueuePlayerSync discordId)) =
                  (.error error, ⟨world.store, world.performed + 1⟩) := by
                simp only [World.perform, failed]
              have same : Unchanged world.store.durable
                  (world.perform state course (.web (.enqueuePlayerSync discordId))).2.store.durable := by
                rw [performed]
                exact ⟨rfl, rfl⟩
              obtain ⟨final, ended⟩ := lost_fails (follows.2 (.error error) trivial)
              rw [runFor, performed, ended, runFor_fail]
              refine ⟨(lost_iff queue).trans ⟨fun unchanged moved => absurd unchanged moved, fun served => ?_⟩,
                fun moved => absurd same moved, ?_⟩
              · by_contra moved
                cases (served moved).2
              · rw [performed, ended]
                exact alongFor_fail _ _ _
          | none =>
              obtain ⟨after, written⟩ :=
                enqueuePlayerSync_ok (course.outside world.performed).now world.store.durable sent
              have performed : world.perform state course (.web (.enqueuePlayerSync discordId)) =
                  (.ok (), ⟨{ world.store with durable := after }, world.performed + 1⟩) := by
                simp only [World.perform, failed, Store.perform, Web.perform, writing, written]
                rfl
              have enqueued := enqueuePlayerSync_enqueued written
              have same : Unchanged world.store.durable
                  (world.perform state course (.web (.enqueuePlayerSync discordId))).2.store.durable := by
                rw [performed]
                exact ⟨enqueued.1, enqueued.2.1⟩
              obtain ⟨value, ended⟩ := queued_done (follows.2 (.ok ()) trivial)
              rw [runFor, performed, ended, runFor_done]
              refine ⟨⟨fun _ _ => ⟨Nat.succ_pos _, rfl⟩, fun _ => ⟨Or.inr ?_, fun _ impossible => ?_⟩⟩,
                fun moved => absurd same moved, ?_⟩
              · exact ⟨discordId, world.store.durable, changed, queue, enqueued⟩
              · cases impossible
              · rw [performed, ended]
                exact alongFor_done _ _ _

/-- Before the change, the run is all or nothing exactly when it is undisturbed. -/
theorem early_iff {program : StoreProgram Unit} {count : Nat}
    (related : Related state before world.store stage) (early : stage.Early)
    (follows : Follows stages Ends stage program) :
    AllOrNothing state before (program.runFor (World.perform state course) count world).1
        (program.runFor (World.perform state course) count world).2.store.durable ↔
      AlongFor (World.perform state course) (Undisturbed state course) count world program := by
  induction program generalizing stage world count with
  | done value =>
      cases stage with
      | clean | begun | profiled => exact follows.elim
      | changed | lost | queued => exact early.elim
  | fail error =>
      rw [runFor_fail]
      have kept := related.kept early
      exact iff_of_true ⟨Or.inl ⟨kept.unchanged, kept.jobs⟩, fun _ _ => kept.unchanged⟩ (alongFor_fail _ _ _)
  | call operation next ih =>
      have kept := related.kept early
      cases count with
      | zero => exact iff_of_true ⟨Or.inl ⟨kept.unchanged, kept.jobs⟩, fun _ impossible => by cases impossible⟩ trivial
      | succ count =>
          have reached := @related_step state before stage course world operation related follows.1
          have rest := follows.2 (world.perform state course operation).1 trivial
          change Follows stages Ends (stage.next operation (world.perform state course operation).1)
            (next (world.perform state course operation).1) at rest
          rw [runFor, AlongFor]
          obtain earlier | ⟨discordId, later⟩ :=
            next_of_early early operation (world.perform state course operation).1
          · have same : Unchanged world.store.durable
                (world.perform state course operation).2.store.durable := by
              have after := reached.kept earlier
              exact ⟨after.osuUsers.trans kept.osuUsers.symm, after.osuStats.trans kept.osuStats.symm⟩
            rw [ih _ reached earlier rest]
            exact (and_iff_right fun moved => absurd same moved).symm
          · rw [later] at reached rest
            obtain ⟨decided, along⟩ := @changed_iff state course before _ discordId _ count reached rest
            have numbered : (world.perform state course operation).2.performed = world.performed + 1 := by
              unfold World.perform
              cases course.fails world.performed <;> rfl
            have moved_iff : Unchanged before (world.perform state course operation).2.store.durable ↔
                Unchanged world.store.durable (world.perform state course operation).2.store.durable := by
              unfold Unchanged
              rw [kept.osuUsers, kept.osuStats]
            rw [decided, numbered, moved_iff]
            exact (and_iff_left along).symm

end

/-- Stopped at any point and with any failures, a request leaves the accounts and its job changed
together or not at all exactly when its job follows the change without a failure. -/
theorem all_or_nothing_iff (state : AppState) (course : Course) (before : Tables) (request : Request)
    (count : Nat) :
    AllOrNothing state before
        ((request.program state).runFor (World.perform state course) count (World.start before)).1
        ((request.program state).runFor (World.perform state course) count
          (World.start before)).2.store.durable ↔
      AlongFor (World.perform state course) (Undisturbed state course) count (World.start before)
        (request.program state) :=
  early_iff (related_start state before) early_clean (request_follows request)

section Refused

/-- The database refuses the third operation, the job of an unlink. -/
def jobRefused : Course where
  outside _ := Sample.alone 0
  fails number := if number = 2 then some (.database .unavailable) else none

/-- The player "1" is linked to the account 7 that has statistics. -/
def linkedOnce : Tables := Sample.linkedPlayer

def unlinkRefused : Option (Except AppError Unit) × World :=
  ((Request.unlink Sample.signedIn).program Sample.appState).runFor
    (World.perform Sample.appState jobRefused) 3 (World.start linkedOnce)

/-- The request returns an error, the row of the player is gone, and there is no job. -/
theorem unlinked_without_job :
    ¬AllOrNothing Sample.appState linkedOnce unlinkRefused.1 unlinkRefused.2.store.durable := by
  have refused : unlinkRefused.1 = some (.error (.database .unavailable)) := by
    decide +kernel
  have gone : unlinkRefused.2.store.durable.osuUsers.rows.length = 0 := by decide +kernel
  intro complete
  have kept := (complete.harmless _ refused).1
  rw [kept] at gone
  cases gone

end Refused

end OsuPlayerRole.AccountStore
