/-
This file shows when a statement sets the next refresh of a user, and that no refresh is put off by more
than a day.
-/
import OsuPlayerRole.Construction.Tasks.RefreshSchedule
import OsuPlayerRole.Proof.Account.RefreshRun

namespace OsuPlayerRole.Refresh

open Web Resumption Program KeyedTable Checked

/-- These are the operations of the worker and of the members beside it. -/
def tasked : WebOp → Prop
  | .utcNow => True
  | .selectDue _ => True
  | .clientCredentialsToken => True
  | .getUser _ _ _ => True
  | .refreshAccount _ _ _ _ => True
  | .enqueuePlayerSync _ => True
  | .updateRefreshed _ _ => True
  | .selectRefreshFailures _ => True
  | .updateFailed _ _ => True
  | .consumeOauthState _ => True
  | .exchangeCode _ _ _ => True
  | .getMe _ => True
  | .linkAccount _ _ _ => True
  | .deleteOsuUser _ => True
  | _ => False

/-- These operations neither take users nor plan their next refreshes. -/
def calm : WebOp → Prop
  | .selectDue _ => False
  | .updateRefreshed _ _ => False
  | .updateFailed _ _ => False
  | operation => tasked operation

/-- An operation that leaves the schedule is allowed to every task. -/
theorem tasked_of_calm {operation : WebOp} (still : calm operation) : tasked operation := by
  cases operation <;> trivial

section Frame

variable {state : AppState} {outside : Outside} {now : Timestamp} {tables after : Tables}
  {operation : WebOp} {row : OsuUser}

/-- The operation sets the next refresh of the row. -/
def Reset (now : Timestamp) (row : OsuUser) : WebOp → Prop
  | .linkAccount _ _ _ => row.nextRefreshAt = now + refreshInterval
  | .refreshAccount _ _ _ _ => row.nextRefreshAt = now + refreshInterval
  | .updateRefreshed discordId next => row.discordId = discordId ∧ row.nextRefreshAt = next
  | .updateFailed discordId next => row.discordId = discordId ∧ row.nextRefreshAt = next
  | _ => False

/-- Some row of the user has the same next refresh. -/
def Planned (tables : Tables) (row : OsuUser) : Prop :=
  ∃ old ∈ tables.osuUsers.rows, old.discordId = row.discordId ∧ old.nextRefreshAt = row.nextRefreshAt

instance (tables : Tables) (row : OsuUser) : Decidable (Planned tables row) :=
  inferInstanceAs (Decidable (∃ old ∈ tables.osuUsers.rows,
    old.discordId = row.discordId ∧ old.nextRefreshAt = row.nextRefreshAt))

/-- A row after the operation has the next refresh that it had, or the operation sets it. -/
def Resets (now : Timestamp) (operation : WebOp) (before after : Tables) : Prop :=
  ∀ row ∈ after.osuUsers.rows, Planned before row ∨ Reset now row operation

/-- Fewer rows are no reset. -/
theorem resets_of_subset (subset : ∀ row ∈ after.osuUsers.rows, row ∈ tables.osuUsers.rows) :
    Resets now operation tables after :=
  fun row member => .inl ⟨row, subset row member, rfl, rfl⟩

/-- Nothing is reset without a change. -/
theorem resets_refl (now : Timestamp) (operation : WebOp) (tables : Tables) :
    Resets now operation tables tables := resets_of_subset fun _ member => member

/-- A new job leaves the accounts. -/
theorem enqueue_users {kind : String} {payload : Json.Value} {delaySecs : Nat}
    (written : tables.enqueue now kind payload delaySecs = .ok after) : after.osuUsers = tables.osuUsers := by
  obtain ⟨_, _, remaining⟩ := bind_ok written
  cases remaining
  rfl

/-- The row that the transaction writes is due after the interval. -/
theorem transaction_planned {parse : Oauth.ParseInstant} {discordId : DiscordId} {user : Osu.OsuUser}
    {discordName : Option String} {osuUserId : OsuUserId} {pages : Mode → Option Osu.OsuUser}
    (written : Oauth.accountTransaction parse now discordId user discordName osuUserId pages tables =
      .ok after) (member : row ∈ after.osuUsers.rows) :
    row ∈ tables.osuUsers.rows ∨ row.nextRefreshAt = now + refreshInterval := by
  obtain ⟨profiled, first, second⟩ := bind_ok written
  rw [Oauth.upsertPages_users second] at member
  unfold Oauth.upsertUserProfile at first
  split at first
  · cases first
  · rw [mapError_ok] at first
    obtain ⟨_, _, inserted⟩ := bind_ok first
    obtain ⟨_, _, stored⟩ := bind_ok inserted
    obtain ⟨profile, _, upserted⟩ := bind_ok stored
    rw [Tables.upsertOsuUser_users upserted, Table.mem_upsert] at member
    obtain rfl | ⟨inside, _⟩ := member
    · refine .inr ?_
      unfold Table.upserted
      cases (Oauth.severOthers user discordId tables).osuUsers.find _ <;> rfl
    · exact .inl (Oauth.mem_severed.mp inside).1

/-- The scheduling of a user sets the row of this user alone. -/
theorem scheduled_planned {discordId : DiscordId} {refreshedAt : OsuUser → Timestamp} {next : Timestamp}
    {failures : Int4} (member : row ∈ tables.osuUsers.rows.map
      (Tables.scheduled discordId refreshedAt next failures)) :
    if row.discordId = discordId then row.nextRefreshAt = next else row ∈ tables.osuUsers.rows := by
  obtain ⟨old, inside, rfl⟩ := List.mem_map.mp member
  rw [Tables.scheduled_discordId]
  unfold Tables.scheduled
  split
  · rfl
  · exact inside

/-- A successful refresh sets the next one of its user alone. -/
theorem updateRefreshed_planned {discordId : DiscordId} {next : Timestamp}
    (member : row ∈ (tables.updateRefreshed now discordId next).osuUsers.rows) :
    if row.discordId = discordId then row.nextRefreshAt = next else row ∈ tables.osuUsers.rows :=
  scheduled_planned member

/-- A failed refresh sets the next one of its user alone. -/
theorem updateFailed_planned {discordId : DiscordId} {next : Timestamp}
    (written : tables.updateFailed discordId next = .ok after) (member : row ∈ after.osuUsers.rows) :
    if row.discordId = discordId then row.nextRefreshAt = next else row ∈ tables.osuUsers.rows := by
  unfold Tables.updateFailed at written
  split at written
  · next absent =>
      cases written
      rw [if_neg (Table.find_eq_none.mp absent row member)]
      exact member
  · obtain ⟨_, _, remaining⟩ := bind_ok written
    cases remaining
    exact scheduled_planned member

/-- The scheduling of a user is a reset of its row. -/
theorem resets_of_planned {discordId : DiscordId} {next : Timestamp}
    (sets : ∀ row, row.discordId = discordId → row.nextRefreshAt = next → Reset now row operation)
    (planned : ∀ row ∈ after.osuUsers.rows,
      if row.discordId = discordId then row.nextRefreshAt = next else row ∈ tables.osuUsers.rows) :
    Resets now operation tables after := by
  intro row member
  have each := planned row member
  split at each
  · next same => exact .inr (sets row same each)
  · exact .inl ⟨row, each, rfl, rfl⟩

/-- Only these operations set the next refresh of a user. -/
theorem perform_resets (state : AppState) (outside : Outside) (tables : Tables) {operation : WebOp}
    (allowed : tasked operation) :
    Resets outside.now operation tables (perform state outside tables operation).2 := by
  have still := resets_refl outside.now operation tables
  cases operation with
  | linkAccount discordId user pages =>
      refine of_committing (Resets outside.now (.linkAccount discordId user pages) tables) still ?_
      intro after written row member
      exact (transaction_planned written member).imp (fun inside => ⟨row, inside, rfl, rfl⟩) id
  | refreshAccount discordId osuUserId primary pages =>
      refine of_committing (Resets outside.now (.refreshAccount discordId osuUserId primary pages) tables)
        still ?_
      intro after written row member
      exact (transaction_planned written member).imp (fun inside => ⟨row, inside, rfl, rfl⟩) id
  | updateRefreshed discordId next =>
      exact resets_of_planned (fun _ => And.intro) fun _ => updateRefreshed_planned
  | updateFailed discordId next =>
      refine of_writing (Resets outside.now (.updateFailed discordId next) tables) still ?_
      intro after written
      exact resets_of_planned (fun _ => And.intro) fun _ => updateFailed_planned written
  | enqueuePlayerSync discordId =>
      refine of_writing (Resets outside.now (.enqueuePlayerSync discordId) tables) still ?_
      exact fun after written => resets_of_subset fun row member => enqueue_users written ▸ member
  | deleteOsuUser discordId =>
      refine of_returning (Resets outside.now (.deleteOsuUser discordId) tables) still ?_
      intro value after written
      obtain ⟨_, _, remaining⟩ := bind_ok written
      cases remaining
      exact resets_of_subset fun row member => (Table.mem_delete.mp member).1
  | consumeOauthState token =>
      refine of_returning (Resets outside.now (.consumeOauthState token) tables) still ?_
      intro value after written
      cases consumed : tables.consumeOauthState outside.now token with
      | error error =>
          rw [consumed] at written
          cases written
      | ok found =>
          rw [consumed] at written
          cases written
          obtain ⟨_, _, remaining⟩ := bind_ok consumed
          cases remaining
          exact still
  | utcNow => exact still
  | selectDue limit => exact still
  | clientCredentialsToken => exact still
  | getUser accessToken osuUserId mode => exact still
  | selectRefreshFailures discordId => exact still
  | exchangeCode code redirectUri codeVerifier => exact still
  | getMe accessToken => exact still
  | _ => exact allowed.elim

/-- An allowed operation changes the schedule by a reset at most. -/
theorem answer_resets (state : AppState) (outside : Outside) (tables : Tables) {operation : WebOp}
    (allowed : tasked operation) :
    Resets outside.now operation tables (answer state outside tables operation).2 := by
  unfold answer
  split
  · exact resets_refl _ _ _
  · exact perform_resets state outside tables allowed

end Frame

section Members

variable {state : AppState} {headers : Headers}

/-- The login callback leaves the schedule of other users. -/
theorem callback_calm (query : Oauth.CallbackQuery) : (Oauth.callback state query).Only calm := by
  unfold Oauth.callback
  split
  · trivial
  · split
    · trivial
    · split
      · trivial
      · refine only_bind (only_ask trivial) fun consumed => ?_
        split
        · trivial
        · refine only_bind (only_check _) fun _ => ?_
          refine only_bind (only_ask trivial) fun accessToken => ?_
          refine only_bind (only_ask trivial) fun user => ?_
          split
          · trivial
          · refine only_bind (only_ask trivial) fun appToken => ?_
            refine only_bind (only_fetchPages (fun _ _ _ => trivial) _ _ _) fun pages => ?_
            refine only_bind (only_ask trivial) fun _ => ?_
            exact only_bind (only_ask trivial) fun _ => trivial

/-- The unlinking sets no schedule. -/
theorem verifyUnlink_calm : (Verify.verifyUnlink state headers).Only calm := by
  refine only_bind (only_check _) fun _ => ?_
  refine only_bind (only_ask trivial) fun now => ?_
  refine only_bind (only_check _) fun session => ?_
  refine only_bind (only_ask trivial) fun removed => ?_
  split
  · trivial
  · exact only_ask trivial

/-- The task of a member leaves no branches. -/
theorem member_confined (state : AppState) {task : Task} (member : task.isRefresh = false) (job : Nat) :
    (⟨job, task.program state⟩ : Thread WebOp WebOp.Value AppError).Confined calm := by
  have branchless {A : Type} {program : WebProgram A} (only : program.Only calm) :
      (⟨job, program >>= fun _ => .done []⟩ : Thread WebOp WebOp.Value AppError).Confined calm := by
    have follows : Follows (confined calm) (fun _ last => last = ()) () program :=
      follows_of_only (fun _ admitted => ⟨admitted, fun _ => rfl⟩) only
    refine follows_bind follows (fun _ _ _ => ⟨rfl, fun branches listed => ?_⟩) fun _ _ _ =>
      ⟨rfl, fun branches impossible => by cases impossible⟩
    cases listed
    exact fun _ inside => absurd inside List.not_mem_nil
  cases task with
  | refresh => cases member
  | callback query => exact branchless (callback_calm query)
  | unlink headers => exact branchless verifyUnlink_calm

end Members

section Duty

/-- A refresh has its last reading of the clock until it has planned the next one. -/
inductive Duty where
  | waiting (read : Option Timestamp)
  | done

def Duty.read : Duty → Option Timestamp
  | .waiting read => read
  | .done => none

/-- The next refresh comes after two hours at the earliest and after a day at the latest. -/
structure InTime (moment next : Timestamp) : Prop where
  early : moment + 2 * Oauth.hour ≤ next
  late : next ≤ moment + maxBackoffHours * Oauth.hour

/-- The refresh of a user plans the next one of this user, once. -/
def duty (served : Bool) (discordId : DiscordId) : Protocol WebOp WebOp.Value AppError Duty where
  allowed
    | .waiting read, .updateRefreshed other next => other = discordId ∧ ∃ moment ∈ read, InTime moment next
    | .waiting read, .updateFailed other next => other = discordId ∧ ∃ moment ∈ read, InTime moment next
    | _, operation => calm operation
  possible
    | .waiting _, operation, answer => served = true → schedules operation = true → answer.isOk = true
    | .done, _, _ => True
  next
    | .waiting _, .utcNow, .ok moment => .waiting (some moment)
    | .waiting _, .updateRefreshed _ _, .ok _ => .done
    | .waiting _, .updateFailed _ _, .ok _ => .done
    | status, _, _ => status

/-- A served refresh has planned the next one when it ends, and it has no branches. -/
def Ends (served : Bool) {A : Type} (answer : Except AppError (List A)) (last : Duty) : Prop :=
  (served = true → last = .done) ∧ ∀ branches, answer = .ok branches → branches = []

/-- A delay between the two bounds is in time. -/
theorem inTime_add {moment : Timestamp} {delay : Int} (early : 2 * Oauth.hour ≤ delay)
    (late : delay ≤ maxBackoffHours * Oauth.hour) : InTime moment (moment + delay) :=
  ⟨Int.add_le_add_left early moment, Int.add_le_add_left late moment⟩

/-- The interval of a refresh is between two hours and a day. -/
theorem refreshInterval_inTime (moment : Timestamp) : InTime moment (moment + refreshInterval) :=
  inTime_add (by decide) (by decide)

/-- Each backoff is between two hours and a day. -/
theorem backoff_inTime (moment : Timestamp) (failures : Int4) : InTime moment (moment + backoff failures) := by
  have hour : 0 ≤ Oauth.hour := by decide
  obtain ⟨exponent, one, bounded⟩ : ∃ exponent : Nat, 1 ≤ exponent ∧
      backoff failures = min (2 ^ exponent) maxBackoffHours * Oauth.hour :=
    ⟨_, by omega, rfl⟩
  have two : (2 : Int) ^ 1 ≤ 2 ^ exponent := by
    exact_mod_cast Nat.pow_le_pow_right (Nat.succ_pos 1) one
  rw [bounded]
  exact inTime_add (Int.mul_le_mul_of_nonneg_right (le_min two (by decide)) hour)
    (Int.mul_le_mul_of_nonneg_right (min_le_right _ _) hour)

variable {state : AppState} {served : Bool}

/-- These operations neither read the clock nor plan a refresh. -/
def fetches : WebOp → Prop
  | .clientCredentialsToken => True
  | .getUser _ _ _ => True
  | .refreshAccount _ _ _ _ => True
  | .enqueuePlayerSync _ => True
  | _ => False

/-- A refresh fetches and stores, and it plans nothing. -/
theorem refreshUserFull_fetches (discordId : DiscordId) (osuUserId : OsuUserId) :
    (Oauth.refreshUserFull state discordId osuUserId).Only fetches := by
  refine only_bind (only_check _) fun _ => ?_
  refine only_bind (only_ask trivial) fun appToken => ?_
  refine only_bind (only_ask trivial) fun primary => ?_
  refine only_bind (only_fetchPages (fun _ _ _ => trivial) _ _ _) fun pages => ?_
  exact only_bind (only_ask trivial) fun _ => only_ask trivial

/-- The refresh of a user keeps its duty. -/
theorem refreshUser_follows (state : AppState) (served : Bool) (due : DiscordId × OsuUserId) :
    Follows (duty served due.1) (fun _ last => served = true → last = .done) (.waiting none)
      (refreshUser state due) := by
  have fetched : ∀ operation, fetches operation →
      (duty served due.1).allowed (.waiting none) operation ∧
        ∀ answer, (duty served due.1).next (.waiting none) operation answer = .waiting none := by
    intro operation only
    cases operation <;> first | exact ⟨trivial, fun _ => rfl⟩ | exact only.elim
  refine follows_bind (follows_attempt (follows_of_only fetched (refreshUserFull_fetches _ _)))
    (fun answer last attempted => ?_) fun error last attempted => ?_
  · obtain ⟨_, _, rfl⟩ := attempted
    split
    · refine follows_ask_bind trivial (fun now _ => ?_) fun error possible on => ?_
      · refine ⟨⟨rfl, now, rfl, refreshInterval_inTime now⟩, fun answer possible on => ?_⟩
        cases answer with
        | ok value => rfl
        | error error => cases possible on rfl
      · cases possible on rfl
    · refine ⟨trivial, fun stored _ => ?_⟩
      refine follows_ask_bind trivial (fun now _ => ?_) fun error possible on => ?_
      · refine ⟨⟨rfl, now, rfl, backoff_inTime now _⟩, fun answer possible on => ?_⟩
        cases answer with
        | ok value => rfl
        | error error => cases possible on rfl
      · cases possible on rfl
  · obtain ⟨_, impossible, _⟩ := attempted
    cases impossible

end Duty

section Threads

variable {state : AppState} {served : Bool} {within later : Timestamp → Prop} {outside : Outside}
  {tables : Tables} {discordId : DiscordId} {operation : WebOp}

/-- The thread refreshes the user, and it has read the clock at such a moment. -/
def Serves (served : Bool) (within : Timestamp → Prop) (discordId : DiscordId)
    (thread : Thread WebOp WebOp.Value AppError) : Prop :=
  ∃ read : Option Timestamp, (∀ moment ∈ read, within moment) ∧
    Follows (duty served discordId) (Ends served) (.waiting read) thread.program

/-- The thread leaves the schedule alone, or it refreshes a user. -/
def Dutiful (served : Bool) (within : Timestamp → Prop) (thread : Thread WebOp WebOp.Value AppError) : Prop :=
  thread.Confined calm ∨ ∃ discordId, Serves served within discordId thread

/-- A later clock allows more plans. -/
theorem Serves.mono {thread : Thread WebOp WebOp.Value AppError}
    (wider : ∀ moment, within moment → later moment) (serves : Serves served within discordId thread) :
    Serves served later discordId thread := by
  obtain ⟨read, inside, follows⟩ := serves
  exact ⟨read, fun moment known => wider moment (inside moment known), follows⟩

/-- A later clock allows more plans of every thread. -/
theorem Dutiful.mono {thread : Thread WebOp WebOp.Value AppError}
    (wider : ∀ moment, within moment → later moment) (dutiful : Dutiful served within thread) :
    Dutiful served later thread :=
  dutiful.imp_right fun ⟨discordId, serves⟩ => ⟨discordId, serves.mono wider⟩

/-- A refresh that has planned the next one leaves the schedule alone. -/
theorem confined_of_done (served : Bool) (discordId : String) {job : Nat}
    {program : WebProgram (List (WebProgram Unit))}
    (follows : Follows (duty served discordId) (Ends served) .done program) :
    (⟨job, program⟩ : Thread WebOp WebOp.Value AppError).Confined calm := by
  change Follows (confined calm) (Spawns (confined calm) ()) () program
  induction program with
  | done branches =>
      refine ⟨rfl, fun others same branch member => ?_⟩
      rw [follows.2 others same] at member
      exact absurd member List.not_mem_nil
  | fail error => exact ⟨rfl, fun _ impossible => by cases impossible⟩
  | call operation next ih =>
      exact ⟨follows.1, fun answer _ => ih answer (follows.2 answer trivial)⟩

/-- A thread on duty plans its user within a day, or it leaves the schedule. -/
theorem duty_allowed {read : Option Timestamp}
    (allowed : (duty served discordId).allowed (.waiting read) operation) :
    calm operation ∨ ∃ next, (operation = .updateRefreshed discordId next ∨
      operation = .updateFailed discordId next) ∧ ∃ moment ∈ read, InTime moment next := by
  cases operation with
  | updateRefreshed other next =>
      obtain ⟨rfl, planned⟩ := allowed
      exact .inr ⟨next, .inl rfl, planned⟩
  | updateFailed other next =>
      obtain ⟨rfl, planned⟩ := allowed
      exact .inr ⟨next, .inr rfl, planned⟩
  | _ => exact .inl allowed

/-- Only the clock gives a new reading. -/
theorem duty_waits (served : Bool) (discordId : String) (state : AppState) (outside : Outside)
    (tables : Tables) (read : Option Timestamp) (still : calm operation) :
    ∃ latest : Option Timestamp, (duty served discordId).next (.waiting read) operation
        (answer state outside tables operation).1 = .waiting latest ∧
      ∀ moment ∈ latest, moment ∈ read ∨ moment = outside.now := by
  cases operation with
  | utcNow =>
      unfold answer
      cases outside.refused .utcNow with
      | some error => exact ⟨read, rfl, fun _ known => .inl known⟩
      | none => exact ⟨some outside.now, rfl, fun _ known => .inr (Option.mem_some_iff.mp known).symm⟩
  | updateRefreshed other next => exact still.elim
  | updateFailed other next => exact still.elim
  | _ => exact ⟨read, rfl, fun _ known => .inl known⟩

/-- A refresh that goes on has no branches. -/
theorem serves_settled {job : Nat} {program : WebProgram (List (WebProgram Unit))} {read : Option Timestamp}
    (inside : ∀ moment ∈ read, within moment)
    (follows : Follows (duty served discordId) (Ends served) (.waiting read) program) :
    (∀ thread ∈ Thread.settled ⟨job, program⟩, Serves served within discordId thread) ∧
      (served = true → Thread.settled ⟨job, program⟩ = [⟨job, program⟩]) := by
  have branchless : ∀ branches : List (WebProgram Unit), Ends served (.ok branches) (.waiting read) →
      branches = [] := fun branches ended => ended.2 branches rfl
  obtain alone | ⟨gone, _, ended, _⟩ := @Thread.settled_alone _ _ _ _ _ job _ _ _ branchless follows
  · refine ⟨fun thread member => ?_, fun _ => alone⟩
    rw [alone, List.mem_singleton] at member
    subst member
    exact ⟨read, inside, follows⟩
  · refine ⟨fun thread member => ?_, fun on => ?_⟩
    · rw [gone] at member
      exact absurd member List.not_mem_nil
    · cases ended on

section Advance

variable {job : Nat} {next : Except AppError operation.Value → WebProgram (List (WebProgram Unit))}

/-- What an operation of a refresh does to the refresh. -/
inductive Advanced (state : AppState) (served : Bool) (within later : Timestamp → Prop) (outside : Outside)
    (tables : Tables) (discordId : DiscordId) (job : Nat) (operation : WebOp)
    (next : Except AppError operation.Value → WebProgram (List (WebProgram Unit))) : Prop where
  /-- The refresh goes on. -/
  | goes (still : calm operation)
      (serves : ∀ thread ∈ Thread.settled ⟨job, next (answer state outside tables operation).1⟩,
        Serves served later discordId thread)
      (alone : served = true → Thread.settled ⟨job, next (answer state outside tables operation).1⟩ =
        [⟨job, next (answer state outside tables operation).1⟩])
  /-- The refresh plans the next one. -/
  | plans (moment planned : Timestamp) (inside : within moment) (inTime : InTime moment planned)
      (updates : operation = .updateRefreshed discordId planned ∨ operation = .updateFailed discordId planned)
      (dutiful : ∀ thread ∈ Thread.settled ⟨job, next (answer state outside tables operation).1⟩,
        Dutiful served later thread)
      (quiet : served = true →
        ∀ thread ∈ Thread.settled ⟨job, next (answer state outside tables operation).1⟩,
          thread.Confined calm)

/-- Each operation of a thread on duty keeps to the duty. -/
theorem serves_advance (wider : ∀ moment, within moment → later moment) (clock : later outside.now)
    (serves : Serves served within discordId ⟨job, .call operation next⟩)
    (possible : served = true → schedules operation = true →
      (answer state outside tables operation).1.isOk = true) :
    Advanced state served within later outside tables discordId job operation next := by
  obtain ⟨read, inside, allowed, continues⟩ := serves
  have follows := continues _ possible
  obtain still | ⟨planned, updates, moment, known, inTime⟩ := duty_allowed allowed
  · obtain ⟨latest, same, readings⟩ := duty_waits served discordId state outside tables read still
    rw [same] at follows
    have late : ∀ moment ∈ latest, later moment := fun moment known =>
      (readings moment known).elim (fun old => wider moment (inside moment old)) fun new => new ▸ clock
    obtain ⟨serves, alone⟩ := serves_settled late follows
    exact .goes still serves alone
  · have ended : (answer state outside tables operation).1.isOk = true →
        ∀ thread ∈ Thread.settled ⟨job, next (answer state outside tables operation).1⟩,
          thread.Confined calm := by
      intro accepted thread member
      refine confined_settled (confined_of_done served discordId ?_) thread member
      rcases updates with rfl | rfl
      all_goals
        rcases answered : (answer state outside tables _).1 with error | value
        · rw [answered] at accepted
          cases accepted
        · rw [answered] at follows
          exact follows
    refine .plans moment planned (inside moment known) inTime updates (fun thread member => ?_) fun on => ?_
    · by_cases accepted : (answer state outside tables operation).1.isOk = true
      · exact .inl (ended accepted thread member)
      · have waits : Follows (duty served discordId) (Ends served) (.waiting read)
            (next (answer state outside tables operation).1) := by
          rcases updates with rfl | rfl
          all_goals
            rcases answered : (answer state outside tables _).1 with error | value
            · rw [answered] at follows
              exact follows
            · rw [answered] at accepted
              exact (accepted rfl).elim
        have late : ∀ moment ∈ read, later moment := fun moment known => wider moment (inside moment known)
        exact .inr ⟨discordId, (serves_settled late waits).1 thread member⟩
    · refine ended (possible on ?_)
      rcases updates with rfl | rfl <;> rfl

end Advance

end Threads

section Rounds

variable {state : AppState} {served : Bool} {within : Timestamp → Prop} {tables after : Tables}
  {outside : Outside} {now : Timestamp} {operation : WebOp}

/-- The answer to the query of a round gives its branches. -/
def branches (state : AppState) :
    Except AppError (List (DiscordId × OsuUserId)) → WebProgram (List (WebProgram Unit))
  | .error _ => return []
  | .ok due => return due.map (refreshUser state)

/-- The round waits for its users. -/
def asking (state : AppState) : WebProgram (List (WebProgram Unit)) :=
  .call (.selectDue (batchSize state)) (branches state)

/-- A pass asks for the due users, or it is switched off. -/
theorem pass_cases (state : AppState) : pass state = .done [] ∨ pass state = asking state := by
  unfold pass
  split
  · exact .inl rfl
  · refine .inr ?_
    change Program.call (WebOp.selectDue (batchSize state)) _ = Program.call _ _
    refine congrArg _ (funext fun answer => ?_)
    cases answer <;> rfl

/-- A pass starts a thread on duty for each due user. -/
theorem branch_serves (job : Nat) (due : DiscordId × OsuUserId) :
    Serves served within due.1 (Thread.branch job (refreshUser state due)) := by
  refine ⟨none, fun _ impossible => (by cases impossible), ?_⟩
  refine follows_bind (refreshUser_follows state served due)
    (fun _ last ended => ⟨ended, fun others listed => ?_⟩)
    fun _ last ended => ⟨ended, fun others impossible => by cases impossible⟩
  cases listed
  rfl

/-- The threads of a pass come from its due users. -/
theorem mem_branches {job : Nat} {answer : Except AppError (List (DiscordId × OsuUserId))}
    {thread : Thread WebOp WebOp.Value AppError}
    (member : thread ∈ Thread.settled ⟨job, branches state answer⟩) :
    ∃ due ∈ answer.toOption.getD [], thread = Thread.branch job (refreshUser state due) := by
  cases answer with
  | error error => exact absurd member List.not_mem_nil
  | ok due =>
      obtain ⟨program, listed, rfl⟩ := List.mem_map.mp member
      obtain ⟨user, inside, rfl⟩ := List.mem_map.mp listed
      exact ⟨user, inside, rfl⟩

/-- A calm operation plans a refresh after the interval. -/
theorem reset_calm {row : OsuUser} (still : calm operation) (reset : Reset now row operation) :
    row.nextRefreshAt = now + refreshInterval := by
  cases operation with
  | linkAccount discordId user pages => exact reset
  | refreshAccount discordId osuUserId primary pages => exact reset
  | updateRefreshed discordId next => exact still.elim
  | updateFailed discordId next => exact still.elim
  | _ => exact reset.elim

/-- No refresh is put off by more than a day. -/
def Bounded (now : Timestamp) (tables : Tables) : Prop :=
  ∀ row ∈ tables.osuUsers.rows, row.nextRefreshAt ≤ now + maxBackoffHours * Oauth.hour

instance (now : Timestamp) (tables : Tables) : Decidable (Bounded now tables) :=
  inferInstanceAs (Decidable (∀ row ∈ tables.osuUsers.rows, _))

/-- A reset within a day keeps the bound. -/
theorem bounded_resets (bounded : Bounded now tables) (resets : Resets now operation tables after)
    (sets : ∀ row, Reset now row operation →
      ∃ moment, moment ≤ now ∧ InTime moment row.nextRefreshAt) : Bounded now after := by
  intro row member
  obtain ⟨old, inside, _, same⟩ | reset := resets row member
  · exact same ▸ bounded old inside
  · obtain ⟨moment, past, inTime⟩ := sets row reset
    exact inTime.late.trans (Int.add_le_add_right past _)

/-- The first schedule of a new account is within a day. -/
theorem reset_calm_inTime {row : OsuUser} (still : calm operation) (reset : Reset now row operation) :
    ∃ moment, moment ≤ now ∧ InTime moment row.nextRefreshAt :=
  ⟨now, le_refl now, reset_calm still reset ▸ refreshInterval_inTime now⟩

/-- The threads wait for users, keep away from the schedule, or refresh a user. -/
structure Timely (state : AppState) (schedule : Schedule) : Prop where
  bounded : Bounded schedule.now schedule.system.tables
  threads : ∀ thread ∈ schedule.system.threads, thread.program = asking state ∨
    Dutiful false (· ≤ schedule.now) thread

variable {schedule reached : Schedule}

/-- A task that begins asks for the due users or is on duty. -/
theorem timely_begin (task : Task) (job : Nat) {thread : Thread WebOp WebOp.Value AppError}
    (member : thread ∈ Thread.settled ⟨job, task.program state⟩) :
    thread.program = asking state ∨ Dutiful served within thread := by
  cases kind : task.isRefresh with
  | false => exact .inr (.inl (confined_settled (member_confined state kind job) thread member))
  | true =>
      obtain rfl : task = .refresh := by
        cases task with
        | refresh => rfl
        | callback query => cases kind
        | unlink headers => cases kind
      change thread ∈ Thread.settled ⟨job, pass state⟩ at member
      obtain empty | waits := pass_cases state
      · rw [empty] at member
        exact absurd member List.not_mem_nil
      · rw [waits] at member
        exact .inl (congrArg Thread.program (List.mem_singleton.mp member))

/-- An operation of a thread keeps the bound, and the thread goes on as it should. -/
theorem timely_advance {job : Nat} {operation : WebOp}
    {next : Except AppError operation.Value → WebProgram (List (WebProgram Unit))}
    (bounded : Bounded outside.now tables)
    (own : (Program.call operation next) = asking state ∨
      Dutiful false (· ≤ outside.now) ⟨job, .call operation next⟩) :
    Bounded outside.now (answer state outside tables operation).2 ∧
      ∀ thread ∈ Thread.settled ⟨job, next (answer state outside tables operation).1⟩,
        thread.program = asking state ∨ Dutiful false (· ≤ outside.now) thread := by
  obtain asks | confined | ⟨discordId, serves⟩ := own
  · cases asks
    refine ⟨?_, fun thread member => ?_⟩
    · have read : (answer state outside tables (.selectDue (batchSize state))).2 = tables :=
        answer_reads state outside tables trivial
      rw [read]
      exact bounded
    · obtain ⟨due, _, rfl⟩ := mem_branches member
      exact .inr (.inr ⟨due.1, branch_serves job due⟩)
  · have still : calm operation := confined.1
    refine ⟨bounded_resets bounded (answer_resets state outside tables (tasked_of_calm still))
      fun row => reset_calm_inTime still, fun thread member => ?_⟩
    exact .inr (.inl (confined_settled (confined.2 _ trivial) thread member))
  · have advanced := @serves_advance state false (· ≤ outside.now) (· ≤ outside.now) outside tables discordId
      operation job next (fun _ past => past) (le_refl _) serves fun impossible => by cases impossible
    cases advanced with
    | goes still serves alone =>
        refine ⟨bounded_resets bounded (answer_resets state outside tables (tasked_of_calm still))
          fun row => reset_calm_inTime still, fun thread member => ?_⟩
        exact .inr (.inr ⟨discordId, serves thread member⟩)
    | plans moment planned inside inTime updates dutiful quiet =>
        refine ⟨?_, fun thread member => .inr (dutiful thread member)⟩
        refine bounded_resets bounded (answer_resets state outside tables ?_) fun row reset => ⟨moment, inside, ?_⟩
        · rcases updates with rfl | rfl <;> trivial
        · rcases updates with rfl | rfl <;> exact reset.2 ▸ inTime

/-- Each step of the tasks keeps them on duty. -/
theorem timely_step (timely : Timely state schedule) {event : Schedule.Event}
    (stepped : schedule.step state event = some reached) : Timely state reached := by
  cases event with
  | tick elapsed =>
      cases stepped
      have later : schedule.now ≤ schedule.now + elapsed := Int.le_add_of_nonneg_right (Int.natCast_nonneg _)
      exact ⟨fun row member => (timely.bounded row member).trans (Int.add_le_add_right later _),
        fun thread member => (timely.threads thread member).imp_right
          (Dutiful.mono fun _ past => past.trans later)⟩
  | event event =>
      obtain ⟨system, moved, rfl⟩ := Option.map_eq_some_iff.mp stepped
      cases event with
      | begin task =>
          cases moved
          refine ⟨timely.bounded, fun thread member => ?_⟩
          obtain old | fresh := List.mem_append.mp member
          · exact timely.threads thread old
          · exact timely_begin task _ fresh
      | stop job =>
          cases moved
          exact ⟨timely.bounded, fun thread member =>
            timely.threads thread (List.mem_filter.mp member).1⟩
      | advance index outside =>
          obtain ⟨⟨tables, threads⟩, advanced, rfl⟩ := Option.map_eq_some_iff.mp moved
          obtain ⟨front, job, operation, next, back, split, found, rfl, rfl⟩ := advance_cases advanced
          have own := timely.threads ⟨job, .call operation next⟩ (List.mem_of_getElem? found)
          obtain ⟨bounded, fresh⟩ := @timely_advance state _ { outside with now := schedule.now } job operation
            next timely.bounded own
          refine ⟨bounded, fun thread member => ?_⟩
          obtain old | new := mem_advanced member
          · exact timely.threads thread (split ▸ old)
          · exact fresh thread new

end Rounds

/-- In every run of the worker beside the members, whatever fails or stops, no refresh is put off by more
than a day. -/
theorem refresh_within_a_day (state : AppState) (tables : Tables) (now : Timestamp)
    (bounded : Bounded now tables) (events : List Schedule.Event) :
    EventRun.Guarded (Schedule.step state) (fun schedule _ => Bounded schedule.now schedule.system.tables)
      (.start tables now) events := by
  have start : Timely state (.start tables now) :=
    ⟨bounded, fun thread impossible => absurd impossible List.not_mem_nil⟩
  exact EventRun.guarded_of_stable (Timely state) (fun _ _ _ timely stepped => timely_step timely stepped)
    (fun _ _ timely => timely.bounded) start events

/-- One round refreshes one user. -/
def refreshedOnce : List Schedule.Event :=
  .event (.begin .refresh) :: List.replicate 11 (.event (.advance 0 reachable))

/-- One refresh keeps the sample account within a day. -/
theorem one_refresh_within_a_day :
    EventRun.Guarded (Schedule.step Sample.appState)
      (fun schedule _ => Bounded schedule.now schedule.system.tables)
      (.start Sample.linkedPlayer 0) refreshedOnce :=
  refresh_within_a_day Sample.appState Sample.linkedPlayer 0 (by decide) refreshedOnce

end OsuPlayerRole.Refresh
