/-
This file shows when each player whose row changed is evaluated again.
-/
import OsuPlayerRole.Library.EventRun
import OsuPlayerRole.Proof.Account.AccountStages
import OsuPlayerRole.Proof.Sample

namespace OsuPlayerRole.AccountStore

open Web Resumption Program KeyedTable

/-- Each player whose row changed has a new job. -/
def Evaluated (before after : Tables) : Prop :=
  ∀ discordId, after.osuUsers.find discordId ≠ before.osuUsers.find discordId →
    ∃ job ∈ after.jobs.rows, before.jobSequence ≤ job.id ∧ evaluated job = some discordId

/-- A request in its surroundings. -/
structure Attempt where
  request : Request
  course : Course

section

variable (state : AppState) (tables : Tables) (attempt : Attempt)

def Attempt.result : Except AppError Unit × World :=
  (attempt.request.program state).run (World.perform state attempt.course) (World.start tables)

def Attempt.step : Option Tables := some (attempt.result state tables).2.store.durable

def Succeeds : Prop := (attempt.result state tables).1 = .ok ()

instance : Decidable (Succeeds state tables attempt) :=
  inferInstanceAs (Decidable ((attempt.result state tables).1 = .ok ()))

/-- Every change of the rows comes before the jobs. -/
def ChangesFirst : Prop :=
  (attempt.request.program state).Along (World.perform state attempt.course)
    (fun world operation => world.store.durable.jobs = tables.jobs ∨
      (world.perform state attempt.course operation).2.store.durable.osuUsers =
        world.store.durable.osuUsers) (World.start tables)

/-- The request evaluates each player whose row it changed. -/
def Reevaluates : Prop :=
  ChangesFirst state tables attempt ∧ Evaluated tables (attempt.result state tables).2.store.durable

/-- A profile that is stored takes its account from no other player. -/
def TakesNothing (course : Course) (world : World) : StoreOp → Prop
  | .upsertUserProfile discordId user =>
      (world.perform state course (.upsertUserProfile discordId user)).1 = .ok () →
        ∀ opened ∈ world.store.opened, ∀ row ∈ opened.2.osuUsers.rows,
          row.osuUserId = user.id → row.discordId = discordId
  | _ => True

def SparesOthers : Prop :=
  (attempt.request.program state).Along (World.perform state attempt.course)
    (TakesNothing state attempt.course) (World.start tables)

end

/-- What a stage says about the users and the queue from the change on. -/
def Late (before : Tables) (discordId : DiscordId) (users : Table OsuUser DiscordId OsuUser.discordId)
    (store : Store) : Stage → Prop
  | .profiled other _ => other = discordId ∧ ∃ now copy, store.opened = some (now, copy) ∧
      copy.osuUsers = users ∧ QueueKept before copy
  | .changed other => other = discordId ∧ store.durable.osuUsers = users ∧
      QueueKept before store.durable
  | .lost => True
  | .queued other => other = discordId ∧ store.durable.osuUsers = users ∧
      ∃ job, job.id = before.jobSequence ∧ evaluated job = some discordId ∧
        ∀ row, row ∈ store.durable.jobs.rows ↔ row ∈ before.jobs.rows ∨ row = job
  | _ => False

section Late

variable {state : AppState} {course : Course} {before : Tables} {discordId : DiscordId}
  {users : Table OsuUser DiscordId OsuUser.discordId} {world : World} {stage : Stage}

theorem late_step {operation : StoreOp} (late : Late before discordId users world.store stage)
    (admitted : stage.Admits operation) :
    Late before discordId users (world.perform state course operation).2.store
      (stage.next operation (world.perform state course operation).1) := by
  unfold World.perform
  cases course.fails world.performed with
  | some error =>
      cases stage with
      | profiled other user => cases operation <;> exact late
      | changed other =>
          obtain rfl := admits_changed admitted
          trivial
      | clean | begun => exact late.elim
      | lost | queued => exact admitted.elim
  | none =>
      cases stage with
      | profiled other user =>
          obtain ⟨same, now, copy, opened, kept, queue⟩ := late
          cases operation with
          | web operation => exact ⟨same, now, copy, opened, kept, queue⟩
          | upsertStats osuUserId mode page =>
              simp only [Store.perform, Store.write, opened]
              cases written : Oauth.upsertStats now osuUserId mode page copy with
              | error error => exact ⟨same, now, copy, opened, kept, queue⟩
              | ok stored =>
                  have users_kept := (Oauth.upsertStats_users written).2
                  have queue_kept := storesPage_queueKept ⟨osuUserId, mode, page, written⟩
                  exact ⟨same, now, stored, rfl, users_kept.trans kept, queue.trans queue_kept⟩
          | commit =>
              simp only [Store.perform, opened]
              exact ⟨same, kept, queue⟩
          | begin | upsertUserProfile => exact admitted.elim
      | changed other =>
          obtain rfl := admits_changed admitted
          obtain ⟨rfl, kept, queue⟩ := late
          simp only [Store.perform, Web.perform, writing]
          cases written : world.store.durable.enqueuePlayerSync
              (course.outside world.performed).now other with
          | error error => trivial
          | ok after =>
              obtain ⟨same, _, job, fresh, named, rows⟩ := enqueuePlayerSync_enqueued written
              refine ⟨rfl, same.trans kept, job, fresh.trans queue.2, named, fun row => ?_⟩
              rw [← queue.1]
              exact rows row
      | clean | begun => exact late.elim
      | lost | queued => exact admitted.elim

/-- A route that goes on from a late stage ends with the same users and the job of the player. -/
theorem late_run {program : StoreProgram Unit} (late : Late before discordId users world.store stage)
    (follows : Follows stages Ends stage program)
    (succeeds : (program.run (World.perform state course) world).1 = .ok ()) :
    Late before discordId users (program.run (World.perform state course) world).2.store
      (.queued discordId) := by
  obtain ⟨last, reached, ends⟩ := run_follows (World.perform state course)
    (fun world stage => Late before discordId users world.store stage)
    (fun _ _ _ late admitted => ⟨trivial, late_step late admitted⟩) late follows
  rw [succeeds] at ends
  cases last with
  | queued other =>
      obtain rfl : other = discordId := reached.1
      exact reached
  | clean | begun | profiled | changed | lost => exact ends.elim

/-- No profile is stored from a late stage on. -/
theorem late_along {program : StoreProgram Unit} (late : Late before discordId users world.store stage)
    (follows : Follows stages Ends stage program) :
    program.Along (World.perform state course) (TakesNothing state course) world := by
  refine along_of_follows (World.perform state course)
    (fun world stage => Late before discordId users world.store stage)
    (fun _ _ _ late admitted => ⟨trivial, late_step late admitted⟩)
    (fun world stage operation late admitted => ?_) late follows
  cases operation with
  | upsertUserProfile other user =>
      cases stage with
      | clean | begun => exact late.elim
      | profiled | changed | lost | queued => exact admitted.elim
  | _ => trivial

/-- Only the player of the job may have another row. -/
theorem evaluated_iff {store : Store} (late : Late before discordId users store (.queued discordId)) :
    Evaluated before store.durable ↔
      ∀ other, other ≠ discordId → users.find other = before.osuUsers.find other := by
  obtain ⟨_, rfl, job, fresh, named, rows⟩ := late
  constructor
  · intro evaluates other different
    by_contra changed
    obtain ⟨found, inside, above, player⟩ := evaluates other changed
    obtain old | rfl := (rows found).mp inside
    · exact absurd (before.jobsBelow found old) (Nat.not_lt.mpr above)
    · exact different (Option.some.inj (player.symm.trans named))
  · intro spared other changed
    have same : other = discordId := by
      by_contra different
      exact changed (spared other different)
    exact ⟨job, (rows job).mpr (Or.inr rfl), fresh.ge, same ▸ named⟩

end Late

section Unwritten

variable {state : AppState} {course : Course} {before : Tables} {world : World} {stage : Stage}

/-- A stored profile leaves the rows of the others exactly when none of them holds the account. -/
theorem spared_iff {user : Osu.OsuUser} {now : Timestamp} {discordId : DiscordId}
    {tables after : Tables}
    (written : Oauth.upsertUserProfile user state.parseInstant now discordId none tables = .ok after) :
    (∀ other, other ≠ discordId → after.osuUsers.find other = tables.osuUsers.find other) ↔
      ∀ row ∈ tables.osuUsers.rows, row.osuUserId = user.id → row.discordId = discordId := by
  obtain ⟨linked, own, account, rows⟩ := Oauth.upsertUserProfile_users written
  constructor
  · intro spared row member held
    by_contra different
    have found := spared row.discordId different
    rw [Table.find_of_mem member, Table.find_eq_some] at found
    obtain rfl | ⟨_, _, apart⟩ := (rows row).mp found.1
    · exact different own
    · exact apart held
  · intro spared other different
    ext row
    rw [Table.find_eq_some, Table.find_eq_some, rows]
    constructor
    · rintro ⟨rfl | ⟨member, _⟩, named⟩
      · exact absurd (named.symm.trans own) different
      · exact ⟨member, named⟩
    · rintro ⟨member, rfl⟩
      exact ⟨Or.inr ⟨member, different, fun held => different (spared row member held)⟩, rfl⟩

/-- A deleted row leaves the rows of the others. -/
theorem find_deleted {tables after : Tables} {discordId : DiscordId} {account : Option OsuUserId}
    (written : tables.deleteOsuUser discordId = .ok (account, after)) {other : DiscordId}
    (different : other ≠ discordId) : after.osuUsers.find other = tables.osuUsers.find other := by
  obtain ⟨_, _, remaining⟩ := Checked.bind_ok written
  cases remaining
  change (tables.osuUsers.delete _).find other = _
  rw [Table.find_delete]
  cases found : tables.osuUsers.find other with
  | none => rfl
  | some row =>
      have named := (Table.find_eq_some.mp found).2
      rw [Option.filter_some, if_pos]
      simp [named, different]

theorem deleteOsuUser_queueKept {tables after : Tables} {discordId : DiscordId}
    {account : Option OsuUserId} (written : tables.deleteOsuUser discordId = .ok (account, after)) :
    QueueKept tables after := by
  obtain ⟨_, _, remaining⟩ := Checked.bind_ok written
  cases remaining
  exact ⟨rfl, rfl⟩

/-- No profile has been stored. -/
def Stage.Unwritten : Stage → Prop
  | .clean => True
  | .begun => True
  | _ => False

/-- An operation before the change leaves everything, or it makes the change. -/
theorem unwritten_step {operation : StoreOp} (related : Related state before world.store stage)
    (unwritten : stage.Unwritten) (admitted : stage.Admits operation) :
    ((stage.next operation (world.perform state course operation).1).Unwritten ∧
        TakesNothing state course world operation) ∨
      ∃ discordId users, Late before discordId users (world.perform state course operation).2.store
          (stage.next operation (world.perform state course operation).1) ∧
        (TakesNothing state course world operation ↔
          ∀ other, other ≠ discordId → users.find other = before.osuUsers.find other) := by
  cases stage with
  | clean =>
      cases operation with
      | web operation =>
          cases operation with
          | deleteOsuUser discordId =>
              cases failed : course.fails world.performed with
              | some error =>
                  simp only [World.perform, failed]
                  exact Or.inl ⟨trivial, trivial⟩
              | none =>
                  simp only [World.perform, failed, Store.perform, Web.perform, returning]
                  cases written : world.store.durable.deleteOsuUser discordId with
                  | error error => exact Or.inl ⟨trivial, trivial⟩
                  | ok found =>
                      rcases found with ⟨_ | account, after⟩
                      · exact Or.inl ⟨trivial, trivial⟩
                      · have kept : Kept before world.store.durable := related
                        have queue : QueueKept before world.store.durable := ⟨kept.jobs, kept.jobSequence⟩
                        refine Or.inr ⟨discordId, after.osuUsers,
                          ⟨rfl, rfl, queue.trans (deleteOsuUser_queueKept written)⟩, fun _ other different => ?_,
                          fun _ => trivial⟩
                        rw [find_deleted written different, kept.osuUsers]
          | _ => exact Or.inl ⟨trivial, trivial⟩
      | begin =>
          refine Or.inl ⟨?_, trivial⟩
          unfold World.perform
          cases course.fails world.performed <;> trivial
      | upsertUserProfile | upsertStats | commit => exact admitted.elim
  | begun =>
      cases operation with
      | web operation => exact Or.inl ⟨trivial, trivial⟩
      | upsertUserProfile discordId user =>
          obtain ⟨kept, now, copy, opened, same⟩ := related
          cases failed : course.fails world.performed with
          | some error =>
              simp only [World.perform, failed, TakesNothing]
              exact Or.inl ⟨trivial, fun impossible => by cases impossible⟩
          | none =>
              simp only [World.perform, failed, Store.perform, Store.write, opened, TakesNothing]
              cases written : Oauth.upsertUserProfile user state.parseInstant now discordId none copy with
              | error error => exact Or.inl ⟨trivial, fun impossible => by cases impossible⟩
              | ok profiled =>
                  have queue : QueueKept before copy := ⟨same.jobs, same.jobSequence⟩
                  refine Or.inr ⟨discordId, profiled.osuUsers, ⟨rfl, now, profiled, rfl, rfl,
                    queue.trans (upsertUserProfile_queueKept written).1⟩, ?_⟩
                  rw [← same.osuUsers, spared_iff written]
                  simp
      | begin | upsertStats | commit => exact admitted.elim
  | profiled | changed | lost | queued => exact unwritten.elim

/-- A route that succeeds evaluates each changed player exactly when it takes no account. -/
theorem unwritten_iff {program : StoreProgram Unit} (related : Related state before world.store stage)
    (unwritten : stage.Unwritten) (follows : Follows stages Ends stage program)
    (succeeds : (program.run (World.perform state course) world).1 = .ok ()) :
    Evaluated before (program.run (World.perform state course) world).2.store.durable ↔
      program.Along (World.perform state course) (TakesNothing state course) world := by
  induction program generalizing stage world with
  | done value =>
      cases stage with
      | clean | begun => exact follows.elim
      | profiled | changed | lost | queued => exact unwritten.elim
  | fail error => cases succeeds
  | call operation next ih =>
      have reached := @related_step state before stage course world operation related follows.1
      have rest : Follows stages Ends (stage.next operation (world.perform state course operation).1)
          (next (world.perform state course operation).1) := follows.2 _ trivial
      obtain ⟨again, nothing⟩ | ⟨discordId, users, late, takes⟩ :=
        @unwritten_step state course before world stage operation related unwritten follows.1
      · exact (ih _ reached again rest succeeds).trans (and_iff_right nothing).symm
      · have ended := late_run late rest succeeds
        refine (evaluated_iff ended).trans (takes.symm.trans ?_)
        exact (and_iff_left (late_along late rest)).symm

/-- Every request changes the rows before it enqueues a job. -/
theorem changesFirst (state : AppState) (tables : Tables) (attempt : Attempt) :
    ChangesFirst state tables attempt := by
  refine along_of_follows (World.perform state attempt.course)
    (fun world stage => Related state tables world.store stage)
    (fun _ _ _ related admitted => ⟨trivial, related_step related admitted⟩)
    (fun world stage operation related admitted => ?_) (related_start state tables)
    (request_follows attempt.request)
  cases stage with
  | clean => exact Or.inl related.jobs
  | begun => exact Or.inl related.1.jobs
  | profiled discordId user => exact Or.inl related.1.jobs
  | changed discordId => exact Or.inl related.2.1.1
  | lost | queued => exact admitted.elim

/-- In every sequence of successful requests, each request evaluates the players whose rows it changed
exactly when it takes no account from another player. -/
theorem reevaluates_iff_sparesOthers (state : AppState) (tables : Tables) (attempts : List Attempt)
    (succeeding : EventRun.Guarded (Attempt.step state) (Succeeds state) tables attempts) :
    EventRun.Guarded (Attempt.step state) (Reevaluates state) tables attempts ↔
      EventRun.Guarded (Attempt.step state) (SparesOthers state) tables attempts := by
  refine EventRun.guarded_congr succeeding fun before attempt succeeds => ?_
  refine (and_iff_right (changesFirst state before attempt)).trans ?_
  exact unwritten_iff (related_start state before) trivial (request_follows attempt.request) succeeds

end Unwritten

section Takeover

/-- The osu! API knows the account 7 alone. -/
def account : Course where
  outside _ :=
    { Sample.alone 0 with
      exchangeCode := fun _ _ _ => .ok "user token"
      getMe := fun _ => .ok (Sample.payload 7)
      clientCredentialsToken := .ok "application token"
      getUser := fun _ _ _ => .ok (Sample.payload 7) }
  fails _ := none

/-- The player has begun to link an account. -/
def linking (discordId : DiscordId) (tables : Tables) : Tables :=
  { tables with
    osuOauthStates := ⟨[⟨"state", "verifier", discordId, none, 0, 600⟩], List.nodup_singleton _⟩ }

def linked : Attempt := ⟨.callback ⟨some "code", some "state", none, none⟩, account⟩

def unlinked : Attempt := ⟨.unlink Sample.signedIn, account⟩

/-- The condition decides for a player who links an account and unlinks it. -/
theorem reevaluates_linked_once :
    EventRun.Guarded (Attempt.step Sample.appState) (Reevaluates Sample.appState)
        (linking "1" Tables.empty) [linked, unlinked] ↔
      EventRun.Guarded (Attempt.step Sample.appState) (SparesOthers Sample.appState)
        (linking "1" Tables.empty) [linked, unlinked] :=
  reevaluates_iff_sparesOthers Sample.appState (linking "1" Tables.empty) [linked, unlinked]
    (by decide +kernel)

def heldByFirst : Tables :=
  linking "2" Sample.linkedPlayer

/-- The player "2" takes the account over, and the player "1" is not evaluated again. -/
theorem takeover_not_evaluated :
    EventRun.Guarded (Attempt.step Sample.appState) (Succeeds Sample.appState) heldByFirst [linked] ∧
      ¬EventRun.Guarded (Attempt.step Sample.appState) (Reevaluates Sample.appState) heldByFirst
        [linked] := by
  refine ⟨by decide +kernel, fun evaluates => ?_⟩
  have removed : ((linked.result Sample.appState heldByFirst).2.store.durable.osuUsers.find "1").isSome ≠
      (heldByFirst.osuUsers.find "1").isSome := by
    decide +kernel
  have others : ∀ job ∈ (linked.result Sample.appState heldByFirst).2.store.durable.jobs.rows,
      evaluated job ≠ some "1" := by
    decide +kernel
  obtain ⟨job, inside, _, named⟩ := evaluates.1.2 "1" fun same => removed (congrArg Option.isSome same)
  exact others job inside named

end Takeover

end OsuPlayerRole.AccountStore
