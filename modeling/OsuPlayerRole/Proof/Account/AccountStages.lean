/-
This file shows which stages the routes that change accounts pass through.
-/
import OsuPlayerRole.Construction.Routes.AccountStore
import OsuPlayerRole.Construction.Tasks.JobWorker
import OsuPlayerRole.Proof.Account.LinkAccount
import OsuPlayerRole.Proof.Web.StatementFrame
import Mathlib.Logic.Relation

namespace OsuPlayerRole.AccountStore

open Web Resumption Program KeyedTable

/-- The accounts and the queue are as they were. -/
structure Kept (before after : Tables) : Prop where
  osuUsers : after.osuUsers = before.osuUsers
  osuStats : after.osuStats = before.osuStats
  jobs : after.jobs = before.jobs
  jobSequence : after.jobSequence = before.jobSequence

namespace Kept

variable {before middle after : Tables}

/-- Nothing is lost without a step. -/
theorem refl (tables : Tables) : Kept tables tables := ⟨rfl, rfl, rfl, rfl⟩

/-- What two steps keep, both together keep. -/
theorem trans (first : Kept before middle) (second : Kept middle after) : Kept before after :=
  ⟨second.osuUsers.trans first.osuUsers, second.osuStats.trans first.osuStats,
    second.jobs.trans first.jobs, second.jobSequence.trans first.jobSequence⟩

end Kept

/-- The queue is as it was. -/
def QueueKept (before after : Tables) : Prop :=
  after.jobs = before.jobs ∧ after.jobSequence = before.jobSequence

/-- The queue that two statements keep, both together keep. -/
theorem QueueKept.trans {before middle after : Tables} (first : QueueKept before middle)
    (second : QueueKept middle after) : QueueKept before after :=
  ⟨second.1.trans first.1, second.2.trans first.2⟩

/-- These operations surround a change of the accounts. -/
def quiet : WebOp → Prop
  | .utcNow => True
  | .consumeOauthState _ => True
  | .exchangeCode _ _ _ => True
  | .getMe _ => True
  | .clientCredentialsToken => True
  | .getUser _ _ _ => True
  | _ => False

/-- A quiet operation writes no account and no job. -/
theorem perform_quiet (state : AppState) (outside : Outside) (tables : Tables) {operation : WebOp}
    (allowed : quiet operation) : Kept tables (Web.perform state outside tables operation).2 := by
  cases operation with
  | consumeOauthState token =>
      refine of_returning (Kept tables) (.refl tables) fun row after written => ?_
      cases consumed : tables.consumeOauthState outside.now token with
      | error error =>
          rw [consumed] at written
          cases written
      | ok found =>
          rw [consumed] at written
          obtain ⟨_, _, remaining⟩ := Checked.bind_ok consumed
          cases remaining
          cases written
          exact ⟨rfl, rfl, rfl, rfl⟩
  | utcNow => exact .refl tables
  | exchangeCode code redirectUri codeVerifier => exact .refl tables
  | getMe accessToken => exact .refl tables
  | clientCredentialsToken => exact .refl tables
  | getUser accessToken osuUserId mode => exact .refl tables
  | _ => exact allowed.elim

/-- The page of a mode was stored. -/
def StoresPage (now : Timestamp) (before after : Tables) : Prop :=
  ∃ osuUserId mode page, Oauth.upsertStats now osuUserId mode page before = .ok after

/-- The transaction has stored the profile at its moment, and then pages. -/
def Linked (state : AppState) (before : Tables) (discordId : DiscordId) (user : Osu.OsuUser)
    (now : Timestamp) (copy : Tables) : Prop :=
  ∃ middle profiled, Kept before middle ∧
    Oauth.upsertUserProfile user state.parseInstant now discordId none middle = .ok profiled ∧
      Relation.ReflTransGen (StoresPage now) profiled copy

/-- The accounts are changed as a whole: one account is linked, or one row is deleted. -/
inductive Changed (state : AppState) (before : Tables) (discordId : DiscordId) (after : Tables) : Prop
  | linked (user : Osu.OsuUser) (now : Timestamp) (linked : Linked state before discordId user now after)
  | unlinked (middle : Tables) (kept : Kept before middle) (account : OsuUserId)
      (deleted : middle.deleteOsuUser discordId = .ok (some account, after))

/-- The player that the job evaluates. -/
def evaluated (job : Job) : Option DiscordId :=
  if job.kind = "player_sync" then JobWorker.textOf job.payload.value "discord_id" else none

/-- The job for the player is the only new one, and the accounts are those of the change. -/
def Enqueued (changed : Tables) (discordId : DiscordId) (after : Tables) : Prop :=
  after.osuUsers = changed.osuUsers ∧ after.osuStats = changed.osuStats ∧
    ∃ job, job.id = changed.jobSequence ∧ evaluated job = some discordId ∧
      ∀ other, other ∈ after.jobs.rows ↔ other ∈ changed.jobs.rows ∨ other = job

/-- These are the stages of a change. -/
inductive Stage where
  | clean
  | begun
  | profiled (discordId : DiscordId) (user : Osu.OsuUser)
  | changed (discordId : DiscordId)
  /-- The job has been refused. -/
  | lost
  | queued (discordId : DiscordId)

def Stage.Admits : Stage → StoreOp → Prop
  | .clean, .web (.deleteOsuUser _) => True
  | .clean, .web operation => quiet operation
  | .clean, .begin => True
  | .begun, .web operation => quiet operation
  | .begun, .upsertUserProfile _ _ => True
  | .profiled _ _, .web operation => quiet operation
  | .profiled _ _, .upsertStats _ _ _ => True
  | .profiled _ _, .commit => True
  | .changed discordId, .web (.enqueuePlayerSync other) => other = discordId
  | _, _ => False

def Stage.next : Stage → (operation : StoreOp) → Except AppError operation.Value → Stage
  | .clean, .web (.deleteOsuUser discordId), .ok (some _) => .changed discordId
  | .clean, .begin, .ok _ => .begun
  | .begun, .upsertUserProfile discordId user, .ok _ => .profiled discordId user
  | .profiled discordId _, .commit, .ok _ => .changed discordId
  | .changed discordId, .web (.enqueuePlayerSync _), .ok _ => .queued discordId
  | .changed _, .web (.enqueuePlayerSync _), .error _ => .lost
  | stage, _, _ => stage

def stages : Protocol StoreOp StoreOp.Value AppError Stage where
  allowed := Stage.Admits
  possible _ _ _ := True
  next := Stage.next

/-- A success needs the job in the queue. -/
def Stage.Complete : Stage → Prop
  | .queued _ => True
  | _ => False

/-- A failure comes before the change or with the job. -/
def Stage.Broken : Stage → Prop
  | .changed _ => False
  | .queued _ => False
  | _ => True

def Ends {A : Type} : Except AppError A → Stage → Prop
  | .ok _, stage => stage.Complete
  | .error _, stage => stage.Broken

section Routes

variable {state : AppState} {stage : Stage}

/-- Nothing durable has been changed. -/
def Stage.Early : Stage → Prop
  | .clean => True
  | .begun => True
  | .profiled _ _ => True
  | _ => False

/-- A request that has just begun is early. -/
theorem early_clean : Stage.clean.Early := trivial

/-- A quiet operation is allowed before the transaction and keeps the stage. -/
theorem admits_quiet (early : stage.Early) {operation : WebOp} (allowed : quiet operation) :
    stages.allowed stage (.web operation) ∧ ∀ answer, stages.next stage (.web operation) answer = stage := by
  cases stage with
  | clean =>
      cases operation with
      | deleteOsuUser discordId => exact allowed.elim
      | _ => exact ⟨allowed, fun _ => rfl⟩
  | begun => exact ⟨allowed, fun _ => rfl⟩
  | profiled discordId user => exact ⟨allowed, fun _ => rfl⟩
  | changed discordId => exact early.elim
  | lost => exact early.elim
  | queued discordId => exact early.elim

/-- An early error has changed nothing. -/
theorem ends_error {A : Type} (early : stage.Early) (error : AppError) :
    Ends (.error error : Except AppError A) stage := by
  cases stage with
  | clean | begun | profiled => trivial
  | changed | lost | queued => exact early.elim

/-- An operation changes the accounts or leaves a stage before the change. -/
theorem next_of_early (early : stage.Early) (operation : StoreOp)
    (answer : Except AppError operation.Value) :
    (stage.next operation answer).Early ∨ ∃ discordId, stage.next operation answer = .changed discordId := by
  unfold Stage.next
  split
  · exact Or.inr ⟨_, rfl⟩
  · exact Or.inl trivial
  · exact Or.inl trivial
  · exact Or.inr ⟨_, rfl⟩
  · exact early.elim
  · exact early.elim
  · exact Or.inl early

/-- A quiet operation leaves the stage to the rest of the route. -/
theorem follows_quiet {A : Type} (early : stage.Early) {operation : WebOp} (allowed : quiet operation)
    {rest : operation.Value → StoreProgram A}
    (continued : ∀ value, Follows stages Ends stage (rest value)) :
    Follows stages Ends stage (ask (.web operation) >>= rest) := by
  obtain ⟨admitted, same⟩ := admits_quiet early allowed
  refine follows_ask_bind admitted (fun value _ => ?_) fun error _ => ?_
  · rw [same]
    exact continued value
  · rw [same]
    exact ends_error early error

/-- A check hands its value on or ends the request early. -/
theorem follows_check {A B : Type} (early : stage.Early) (checked : Except AppError A)
    {rest : A → StoreProgram B} (continued : ∀ value, Follows stages Ends stage (rest value)) :
    Follows stages Ends stage (ofWeb (check checked) >>= rest) := by
  cases checked with
  | ok value => exact continued value
  | error error => exact ends_error early error

/-- The pages are stored in the transaction of the profile. -/
theorem storePages_follows {A : Type} {discordId : DiscordId} {user : Osu.OsuUser}
    (accessToken : String) (osuUserId : OsuUserId) (modes : List Mode)
    {rest : Unit → StoreProgram A}
    (continued : Follows stages Ends (.profiled discordId user) (rest ())) :
    Follows stages Ends (.profiled discordId user) (storePages accessToken osuUserId modes >>= rest) := by
  induction modes with
  | nil => exact continued
  | cons mode others ih =>
      refine ⟨trivial, fun answer _ => ?_⟩
      cases answer with
      | ok page =>
          refine ⟨trivial, fun stored _ => ?_⟩
          cases stored with
          | ok value => exact ih
          | error error => trivial
      | error error => exact ih

/-- The transaction begins with the profile. -/
theorem begin_follows {A : Type} (discordId : DiscordId) (user : Osu.OsuUser)
    {rest : Unit → StoreProgram A}
    (continued : Follows stages Ends (.profiled discordId user) (rest ())) :
    Follows stages Ends .clean
      (ask .begin >>= fun _ => ask (.upsertUserProfile discordId user) >>= rest) := by
  refine follows_ask_bind trivial (fun _ _ => ?_) fun _ _ => trivial
  exact follows_ask_bind trivial (fun _ _ => continued) fun _ _ => trivial

/-- The transaction ends with the job. -/
theorem commit_follows {A : Type} (discordId : DiscordId) (user : Osu.OsuUser) (value : A) :
    Follows stages Ends (.profiled discordId user)
      (ask .commit >>= fun _ => ask (.web (.enqueuePlayerSync discordId)) >>= fun _ => pure value) := by
  refine follows_ask_bind trivial (fun _ _ => ?_) fun _ _ => trivial
  exact follows_ask_bind rfl (fun _ _ => trivial) fun _ _ => trivial

/-- The callback goes through the stages in their order. -/
theorem callbackInner_follows (query : Oauth.CallbackQuery) :
    Follows stages Ends .clean (callbackInner state query) := by
  unfold callbackInner
  split
  · trivial
  · split
    · trivial
    · split
      · trivial
      · refine follows_quiet early_clean (by trivial) fun row => ?_
        split
        · trivial
        · next codeVerifier discordId =>
            refine follows_check early_clean _ fun _ => ?_
            refine follows_quiet early_clean (by trivial) fun accessToken => ?_
            refine follows_quiet early_clean (by trivial) fun user => ?_
            split
            · trivial
            · refine begin_follows discordId user ?_
              refine follows_quiet (by trivial) (by trivial) fun appToken => ?_
              refine storePages_follows appToken user.id Mode.all ?_
              exact commit_follows discordId user (user.username, user.id)

/-- A refresh goes through the stages in their order. -/
theorem refreshUserFull_follows (discordId : DiscordId) (osuUserId : OsuUserId) :
    Follows stages Ends .clean (refreshUserFull state discordId osuUserId) := by
  refine follows_check early_clean _ fun _ => ?_
  refine follows_quiet early_clean (by trivial) fun appToken => ?_
  refine follows_quiet early_clean (by trivial) fun primary => ?_
  refine begin_follows discordId primary ?_
  refine storePages_follows appToken osuUserId Mode.all ?_
  refine follows_ask_bind trivial (fun _ _ => ?_) fun _ _ => trivial
  refine ⟨rfl, fun answer _ => ?_⟩
  cases answer <;> trivial

/-- The unlinking goes through the stages in their order. -/
theorem verifyUnlink_follows (headers : Headers) :
    Follows stages Ends .clean (ofWeb (Verify.verifyUnlink state headers)) := by
  unfold Verify.verifyUnlink
  cases Auth.verifyOrigin headers state.config.allowedOrigins with
  | error error => trivial
  | ok allowed =>
      refine ⟨trivial, fun answer _ => ?_⟩
      cases answer with
      | error error => trivial
      | ok now =>
          change Follows stages Ends .clean (ofWeb (check _ >>= _))
          cases Auth.readSession state.signing state.config now headers with
          | error error => trivial
          | ok session =>
              refine ⟨trivial, fun answer _ => ?_⟩
              cases answer with
              | error error => trivial
              | ok removed =>
                  cases removed with
                  | none => trivial
                  | some account =>
                      refine ⟨rfl, fun answer _ => ?_⟩
                      cases answer <;> trivial

/-- Every request passes through the stages. -/
theorem request_follows (request : Request) : Follows stages Ends .clean (request.program state) := by
  cases request with
  | callback query =>
      refine follows_bind (callbackInner_follows query) (fun value last ends => ?_) fun error last ends => ?_
      · exact ends
      · exact ends
  | unlink headers => exact verifyUnlink_follows headers
  | refresh discordId osuUserId => exact refreshUserFull_follows discordId osuUserId

end Routes

section Linked

variable {state : AppState} {before copy : Tables} {discordId : DiscordId} {user : Osu.OsuUser}
  {now : Timestamp}

/-- The statistics of a page touch no job. -/
theorem storesPage_queueKept {tables after : Tables} (stored : StoresPage now tables after) :
    QueueKept tables after := by
  obtain ⟨osuUserId, mode, page, written⟩ := stored
  have upserted := Checked.mapError_ok.mp written
  unfold Tables.upsertOsuStats at upserted
  split at upserted
  · cases upserted
    exact ⟨rfl, rfl⟩
  · cases upserted

/-- A profile touches no job, and its Discord id can be sent. -/
theorem upsertUserProfile_queueKept {parse : Oauth.ParseInstant} {discordName : Option String}
    {tables after : Tables}
    (written : Oauth.upsertUserProfile user parse now discordId discordName tables = .ok after) :
    QueueKept tables after ∧ RuleSql.send [.text discordId] = .ok () := by
  unfold Oauth.upsertUserProfile at written
  split at written
  · cases written
  · rw [Checked.mapError_ok] at written
    obtain ⟨⟨⟩, sent, inserted⟩ := Checked.bind_ok written
    obtain ⟨_, _, stored⟩ := Checked.bind_ok inserted
    obtain ⟨_, _, upserted⟩ := Checked.bind_ok stored
    refine ⟨?_, sent⟩
    unfold Tables.upsertOsuUser at upserted
    dsimp only at upserted
    split at upserted
    · split at upserted
      · cases upserted
        exact ⟨rfl, rfl⟩
      · cases upserted
    · cases upserted

/-- The transaction that links touches no job. -/
theorem Linked.queueKept (linked : Linked state before discordId user now copy) :
    QueueKept before copy := by
  obtain ⟨middle, profiled, kept, written, pages⟩ := linked
  have stored : QueueKept profiled copy := by
    induction pages with
    | refl => exact ⟨rfl, rfl⟩
    | tail _ page ih => exact ih.trans (storesPage_queueKept page)
  have first : QueueKept before middle := ⟨kept.jobs, kept.jobSequence⟩
  exact first.trans ((upsertUserProfile_queueKept written).1.trans stored)

/-- The Discord id of a linked account can be sent. -/
theorem Linked.sent (linked : Linked state before discordId user now copy) :
    RuleSql.send [.text discordId] = .ok () := by
  obtain ⟨_, _, _, written, _⟩ := linked
  exact (upsertUserProfile_queueKept written).2

/-- A further page keeps the account linked. -/
theorem Linked.store (linked : Linked state before discordId user now copy) {osuUserId : OsuUserId}
    {mode : Mode} {page : Osu.OsuUser} {after : Tables}
    (written : Oauth.upsertStats now osuUserId mode page copy = .ok after) :
    Linked state before discordId user now after := by
  obtain ⟨middle, profiled, kept, first, pages⟩ := linked
  exact ⟨middle, profiled, kept, first, pages.tail ⟨osuUserId, mode, page, written⟩⟩

end Linked

/-- What a stage says about the durable tables and about the open copy. -/
def Related (state : AppState) (before : Tables) (store : Store) : Stage → Prop
  | .clean => Kept before store.durable
  | .begun => Kept before store.durable ∧
      ∃ now copy, store.opened = some (now, copy) ∧ Kept before copy
  | .profiled discordId user => Kept before store.durable ∧
      ∃ now copy, store.opened = some (now, copy) ∧ Linked state before discordId user now copy
  | .changed discordId => Changed state before discordId store.durable ∧
      QueueKept before store.durable ∧ RuleSql.send [.text discordId] = .ok ()
  | .lost => (∃ discordId, Changed state before discordId store.durable) ∧
      QueueKept before store.durable
  | .queued discordId => ∃ changed, Changed state before discordId changed ∧
      QueueKept before changed ∧ Enqueued changed discordId store.durable

section Sound

variable {state : AppState} {outside : Outside} {before : Tables} {store : Store} {stage : Stage}

/-- Before the commit nothing durable has changed. -/
theorem Related.kept (related : Related state before store stage) (early : stage.Early) :
    Kept before store.durable := by
  cases stage with
  | clean => exact related
  | begun => exact related.1
  | profiled discordId user => exact related.1
  | changed | lost | queued => exact early.elim

/-- A quiet operation leaves a durable copy of the same accounts. -/
theorem related_quiet (related : Related state before store stage) (early : stage.Early)
    {operation : WebOp} (allowed : quiet operation) :
    Related state before (store.perform state outside (.web operation)).2 stage := by
  have kept := perform_quiet state outside store.durable allowed
  cases stage with
  | clean => exact Kept.trans related kept
  | begun => exact ⟨related.1.trans kept, related.2⟩
  | profiled discordId user => exact ⟨related.1.trans kept, related.2⟩
  | changed | lost | queued => exact early.elim

/-- A stored job for the player is the only change of an enqueue. -/
theorem enqueuePlayerSync_enqueued {now : Timestamp} {tables after : Tables} {discordId : DiscordId}
    (written : tables.enqueuePlayerSync now discordId = .ok after) : Enqueued tables discordId after := by
  obtain ⟨payload, encoded, remaining⟩ := Checked.bind_ok written
  have stored : payload.value = .object [("discord_id", .string discordId)] := by
    unfold RuleSql.jsonb at encoded
    split at encoded
    · cases encoded
      rfl
    · cases encoded
  cases remaining
  let job := Tables.freshJob now tables.jobSequence "player_sync" payload 0
  have below : ∀ other ∈ tables.jobs.rows, other.id ≠ job.id :=
    fun other member => Nat.ne_of_lt (tables.jobsBelow other member)
  refine ⟨rfl, rfl, job, rfl, ?_, fun other => ?_⟩
  · change (if ("player_sync" : String) = "player_sync" then
      JobWorker.textOf payload.value "discord_id" else none) = some discordId
    rw [if_pos rfl, stored]
    rfl
  · change other ∈ (tables.jobs.insertNew job below).rows ↔ _
    exact Table.mem_insertNew

/-- A job for the player can be stored when the identity could be sent. -/
theorem enqueuePlayerSync_ok (now : Timestamp) (tables : Tables) {discordId : DiscordId}
    (sent : RuleSql.send [.text discordId] = .ok ()) :
    ∃ after, tables.enqueuePlayerSync now discordId = .ok after := by
  have sendable := RuleSql.send_ok_iff.mp sent
  have storable : (Json.Value.object [("discord_id", .string discordId)]).storable = true := by
    simpa [Json.Value.storable, Json.Value.storableFields, RuleSql.Bind.sendable] using sendable
  unfold Tables.enqueuePlayerSync Tables.enqueue
  rw [Oauth.jsonb_ok storable]
  exact ⟨_, rfl⟩

/-- A deletion that finds no row changes nothing. -/
theorem deleted_none {tables : Tables} {discordId : DiscordId}
    (missing : tables.osuUsers.find discordId = none) :
    Kept tables (tables.deleteOsuUsers fun row => row.discordId = discordId) := by
  have absent : ∀ row ∈ tables.osuUsers.rows, decide (row.discordId = discordId) = false :=
    fun row member => decide_eq_false fun same => Table.find_eq_none.mp missing row member same
  refine ⟨Table.delete_eq_self absent, Table.delete_eq_self fun stats _ => ?_, rfl, rfl⟩
  rw [List.any_eq_false]
  intro row member removed
  have named : decide (row.discordId = discordId) = true := (Bool.and_eq_true_iff.mp removed).1
  exact Bool.false_ne_true ((absent row member).symm.trans named)

/-- A deletion that finds a row is the whole change. -/
theorem related_delete {discordId : DiscordId} (kept : Kept before store.durable) :
    Related state before (store.perform state outside (.web (.deleteOsuUser discordId))).2
      (Stage.next .clean (.web (.deleteOsuUser discordId))
        (store.perform state outside (.web (.deleteOsuUser discordId))).1) := by
  change Related state before
    { store with durable := (returning store.durable (store.durable.deleteOsuUser discordId)).2 }
    (Stage.next .clean (.web (.deleteOsuUser discordId))
      (returning store.durable (store.durable.deleteOsuUser discordId)).1)
  cases written : store.durable.deleteOsuUser discordId with
  | error error => exact kept
  | ok found =>
      rcases found with ⟨account, after⟩
      have unlinked := written
      obtain ⟨⟨⟩, sent, remaining⟩ := Checked.bind_ok written
      cases account with
      | some account =>
          refine ⟨.unlinked store.durable kept account unlinked, ?_, sent⟩
          obtain ⟨_, rfl⟩ := Prod.mk.inj (Except.ok.inj remaining)
          exact ⟨kept.jobs, kept.jobSequence⟩
      | none =>
          obtain ⟨missing, rfl⟩ := Prod.mk.inj (Except.ok.inj remaining)
          exact kept.trans (deleted_none (Option.map_eq_none_iff.mp missing))

/-- A changed account is followed by its job alone. -/
theorem admits_changed {discordId : DiscordId} {operation : StoreOp}
    (admitted : (Stage.changed discordId).Admits operation) :
    operation = .web (.enqueuePlayerSync discordId) := by
  cases operation with
  | web operation =>
      cases operation with
      | enqueuePlayerSync other =>
          obtain rfl : other = discordId := admitted
          rfl
      | _ => exact admitted.elim
  | begin | upsertUserProfile | upsertStats | commit => exact admitted.elim

/-- Each admitted statement keeps the relation to its stage. -/
theorem related_perform {operation : StoreOp} (related : Related state before store stage)
    (admitted : stage.Admits operation) :
    Related state before (store.perform state outside operation).2
      (stage.next operation (store.perform state outside operation).1) := by
  cases stage with
  | clean =>
      cases operation with
      | web operation =>
          by_cases deletes : ∃ discordId, operation = .deleteOsuUser discordId
          · obtain ⟨discordId, rfl⟩ := deletes
            exact related_delete related
          · have allowed : quiet operation := by
              cases operation with
              | deleteOsuUser discordId => exact absurd ⟨discordId, rfl⟩ deletes
              | _ => exact admitted
            have stays := (admits_quiet early_clean allowed).2 (store.perform state outside (.web operation)).1
            change stages.next _ _ _ = _ at stays
            rw [show Stage.next .clean (.web operation) _ = .clean from stays]
            exact related_quiet related early_clean allowed
      | begin => exact ⟨related, outside.now, store.durable, rfl, related⟩
      | upsertUserProfile | upsertStats | commit => exact admitted.elim
  | begun =>
      cases operation with
      | web operation =>
          exact related_quiet related trivial admitted
      | upsertUserProfile discordId user =>
          obtain ⟨kept, now, copy, opened, same⟩ := related
          simp only [Store.perform, Store.write, opened]
          cases written : Oauth.upsertUserProfile user state.parseInstant now discordId none copy with
          | error error => exact ⟨kept, now, copy, opened, same⟩
          | ok profiled => exact ⟨kept, now, profiled, rfl, copy, profiled, same, written, .refl⟩
      | begin | upsertStats | commit => exact admitted.elim
  | profiled discordId user =>
      cases operation with
      | web operation =>
          exact related_quiet related trivial admitted
      | upsertStats osuUserId mode page =>
          obtain ⟨kept, now, copy, opened, linked⟩ := related
          simp only [Store.perform, Store.write, opened]
          cases written : Oauth.upsertStats now osuUserId mode page copy with
          | error error => exact ⟨kept, now, copy, opened, linked⟩
          | ok stored => exact ⟨kept, now, stored, rfl, linked.store written⟩
      | commit =>
          obtain ⟨kept, now, copy, opened, linked⟩ := related
          simp only [Store.perform, opened]
          exact ⟨.linked user now linked, linked.queueKept, linked.sent⟩
      | begin | upsertUserProfile => exact admitted.elim
  | changed discordId =>
      obtain rfl := admits_changed admitted
      obtain ⟨changed, queue, sent⟩ := related
      obtain ⟨after, written⟩ := enqueuePlayerSync_ok outside.now store.durable sent
      have performed : store.perform state outside (.web (.enqueuePlayerSync discordId)) =
          (.ok (), { store with durable := after }) := by
        simp only [Store.perform, Web.perform, writing, written]
        rfl
      rw [performed]
      exact ⟨store.durable, changed, queue, enqueuePlayerSync_enqueued written⟩
  | lost => exact admitted.elim
  | queued discordId => exact admitted.elim

/-- A failed operation leaves the relation, also where the job is lost. -/
theorem related_error {operation : StoreOp} (related : Related state before store stage)
    (admitted : stage.Admits operation) (error : AppError) :
    Related state before store (stage.next operation (.error error)) := by
  cases stage with
  | clean =>
      cases operation with
      | web operation => cases operation <;> exact related
      | _ => exact related
  | begun => cases operation <;> exact related
  | profiled discordId user => cases operation <;> exact related
  | changed discordId =>
      obtain rfl := admits_changed admitted
      exact ⟨⟨discordId, related.1⟩, related.2.1⟩
  | lost => exact admitted.elim
  | queued discordId => exact admitted.elim

/-- Each operation of a course keeps the relation to its stage. -/
theorem related_step {course : Course} {world : World} {operation : StoreOp}
    (related : Related state before world.store stage) (admitted : stage.Admits operation) :
    Related state before (world.perform state course operation).2.store
      (stage.next operation (world.perform state course operation).1) := by
  unfold World.perform
  cases course.fails world.performed with
  | some error => exact related_error related admitted error
  | none => exact related_perform related admitted

/-- At the start nothing has changed. -/
theorem related_start (state : AppState) (tables : Tables) :
    Related state tables (World.start tables).store .clean := Kept.refl tables

end Sound

end OsuPlayerRole.AccountStore
