/-
This file shows that the rounds of the refresh worker leave two hours between two refreshes of a user, and
that no user who is due waits behind the others forever.
-/
import OsuPlayerRole.Proof.Account.Timetable

namespace OsuPlayerRole.Refresh

open Web Resumption Program KeyedTable Checked

section Due

variable {tables : Tables} {now : Timestamp} {limit : Nat}

/-- The users that are due, the stalest first. -/
def sortedDue (now : Timestamp) (tables : Tables) : List OsuUser :=
  (tables.osuUsers.rows.filter fun row => row.nextRefreshAt ≤ now).insertionSort
    fun first second => first.nextRefreshAt ≤ second.nextRefreshAt

/-- The query answers with the first due users. -/
theorem selectDue_users (now : Timestamp) (limit : Nat) (tables : Tables) :
    (tables.selectDue now limit).map Prod.fst = ((sortedDue now tables).take limit).map OsuUser.discordId := by
  unfold Tables.selectDue
  rw [List.map_map]
  rfl

/-- The sorted rows are the due ones. -/
theorem mem_sortedDue {row : OsuUser} :
    row ∈ sortedDue now tables ↔ row ∈ tables.osuUsers.rows ∧ row.nextRefreshAt ≤ now := by
  rw [sortedDue, List.mem_insertionSort, List.mem_filter, decide_eq_true_eq]

/-- No user is sorted twice. -/
theorem sortedDue_nodup : ((sortedDue now tables).map OsuUser.discordId).Nodup := by
  have kept : ((tables.osuUsers.rows.filter fun row => row.nextRefreshAt ≤ now).map OsuUser.discordId).Nodup :=
    tables.osuUsers.unique.sublist (List.filter_sublist.map OsuUser.discordId)
  exact ((List.perm_insertionSort _ _).map OsuUser.discordId).nodup_iff.mpr kept

/-- No user is selected twice. -/
theorem selectDue_nodup : ((tables.selectDue now limit).map Prod.fst).Nodup := by
  rw [selectDue_users]
  exact sortedDue_nodup.sublist ((List.take_sublist limit _).map OsuUser.discordId)

/-- No more users are selected than the batch holds. -/
theorem selectDue_length : ((tables.selectDue now limit).map Prod.fst).length ≤ limit := by
  rw [selectDue_users, List.length_map]
  exact List.length_take_le _ _

/-- A selected user is due. -/
theorem mem_selectDue {discordId : DiscordId}
    (member : discordId ∈ (tables.selectDue now limit).map Prod.fst) :
    ∃ row ∈ tables.osuUsers.rows, row.discordId = discordId ∧ row.nextRefreshAt ≤ now := by
  rw [selectDue_users] at member
  obtain ⟨row, taken, rfl⟩ := List.mem_map.mp member
  obtain ⟨stored, due⟩ := mem_sortedDue.mp (List.mem_of_mem_take taken)
  exact ⟨row, stored, rfl, due⟩

/-- A query that passes over a user who is due takes as many users as it may, and each has waited as long. -/
theorem selectDue_passes {row : OsuUser} (stored : row ∈ tables.osuUsers.rows) (due : row.nextRefreshAt ≤ now)
    (passed : row.discordId ∉ (tables.selectDue now limit).map Prod.fst) :
    ((tables.selectDue now limit).map Prod.fst).length = limit ∧
      ∀ discordId ∈ (tables.selectDue now limit).map Prod.fst, discordId ≠ row.discordId ∧
        ∃ other ∈ tables.osuUsers.rows, other.discordId = discordId ∧
          other.nextRefreshAt ≤ row.nextRefreshAt := by
  rw [selectDue_users] at passed ⊢
  have sorted : (sortedDue now tables).Pairwise
      fun first second => first.nextRefreshAt ≤ second.nextRefreshAt := List.pairwise_insertionSort _ _
  have listed : row ∈ (sortedDue now tables).take limit ++ (sortedDue now tables).drop limit := by
    rw [List.take_append_drop]
    exact mem_sortedDue.mpr ⟨stored, due⟩
  have dropped : row ∈ (sortedDue now tables).drop limit :=
    (List.mem_append.mp listed).resolve_left fun taken => passed (List.mem_map_of_mem taken)
  rw [← List.take_append_drop limit (sortedDue now tables), List.pairwise_append] at sorted
  constructor
  · have longer : limit < (sortedDue now tables).length := by
      by_contra short
      rw [List.drop_eq_nil_of_le (Nat.le_of_not_lt short)] at dropped
      exact absurd dropped List.not_mem_nil
    rw [List.length_map, List.length_take, Nat.min_eq_left longer.le]
  · intro discordId member
    obtain ⟨other, taken, rfl⟩ := List.mem_map.mp member
    refine ⟨fun same => passed (same ▸ member), other, ?_, rfl, sorted.2.2 other taken row dropped⟩
    exact (mem_sortedDue.mp (List.mem_of_mem_take taken)).1

end Due

section Stage

/-- Every row of the user is due two hours after the moment at the earliest. -/
def Rested (tables : Tables) (moment : Timestamp) (discordId : DiscordId) : Prop :=
  ∀ row ∈ tables.osuUsers.rows, row.discordId = discordId → moment + 2 * Oauth.hour ≤ row.nextRefreshAt

/-- A round refreshes the user, and it has read the clock after the moment. -/
def Busy (system : System) (moment : Timestamp) (discordId : DiscordId) : Prop :=
  ∃ thread ∈ system.threads, system.refreshing thread.job = true ∧
    Serves true (moment ≤ ·) discordId thread

/-- A user of both rounds has two hours in between. -/
def Spaced (first second : Round) : Prop :=
  ∀ discordId ∈ first.users, discordId ∈ second.users → first.moment + 2 * Oauth.hour ≤ second.moment

/-- Either the last round refreshes its users, or a new round waits for its users alone. -/
inductive Stage (state : AppState) (floor : Timestamp) (schedule : Schedule) : Prop where
  | serving (moment : Timestamp) (first : floor ≤ moment) (past : moment ≤ schedule.now)
      (latest : ∀ round ∈ schedule.rounds, round.moment ≤ moment)
      (threads : ∀ thread ∈ schedule.system.threads, schedule.system.refreshing thread.job = true →
        Dutiful true (moment ≤ ·) thread)
      (users : ∀ round ∈ schedule.rounds, ∀ discordId ∈ round.users,
        Rested schedule.system.tables round.moment discordId ∨
          round.moment = moment ∧ Busy schedule.system moment discordId)
  | waiting
      (single : schedule.system.threads.countP (fun thread => schedule.system.refreshing thread.job) = 1)
      (threads : ∀ thread ∈ schedule.system.threads, schedule.system.refreshing thread.job = true →
        thread.program = asking state)
      (rested : ∀ round ∈ schedule.rounds, ∀ discordId ∈ round.users,
        Rested schedule.system.tables round.moment discordId)

structure Kept (state : AppState) (floor : Timestamp) (schedule : Schedule) : Prop where
  numbered : ∀ thread ∈ schedule.system.threads, thread.job < schedule.system.tasks.length
  members : ∀ thread ∈ schedule.system.threads, schedule.system.refreshing thread.job = false →
    thread.Confined calm
  later : floor ≤ schedule.now
  moments : ∀ round ∈ schedule.rounds, floor ≤ round.moment ∧ round.moment ≤ schedule.now
  spaced : schedule.rounds.Pairwise Spaced
  sized : ∀ round ∈ schedule.rounds, round.users.Nodup ∧ round.users.length ≤ batchSize state
  stage : Stage state floor schedule

/-- What a step of an orderly run does to the rows and to the rounds. -/
structure Effect (state : AppState) (floor : Timestamp) (before after : Schedule) : Prop where
  rows : ∀ row ∈ after.system.tables.osuUsers.rows,
    Planned before.system.tables row ∨ floor + 2 * Oauth.hour ≤ row.nextRefreshAt
  rounds : after.rounds = before.rounds ∨
    (∀ round ∈ before.rounds, ∀ discordId ∈ round.users,
      Rested before.system.tables round.moment discordId) ∧
      after.rounds = before.rounds ++
        [⟨before.now, (before.system.tables.selectDue before.now (batchSize state)).map Prod.fst⟩]

variable {state : AppState} {floor moment now : Timestamp} {schedule reached : Schedule} {system : System}
  {tables after : Tables} {outside : Outside} {operation : WebOp} {discordId : DiscordId}

/-- A reset by two hours or more keeps a user at rest. -/
theorem rested_resets (rested : Rested tables moment discordId) (resets : Resets now operation tables after)
    (sets : ∀ row, Reset now row operation → moment + 2 * Oauth.hour ≤ row.nextRefreshAt) :
    Rested after moment discordId := by
  intro row member same
  obtain ⟨old, inside, owner, planned⟩ | reset := resets row member
  · exact planned ▸ rested old inside (owner.trans same)
  · exact sets row reset

/-- A plan after the round is at least two hours later. -/
theorem inTime_after {read planned : Timestamp} (after : moment ≤ read) (inTime : InTime read planned) :
    moment + 2 * Oauth.hour ≤ planned := (Int.add_le_add_right after _).trans inTime.early

/-- The first schedule of a new account is at least two hours ahead. -/
theorem calm_sets {row : OsuUser} (past : moment ≤ now) (still : calm operation) (reset : Reset now row operation) :
    moment + 2 * Oauth.hour ≤ row.nextRefreshAt :=
  reset_calm still reset ▸ inTime_after past (refreshInterval_inTime now)

/-- A served plan decides the rows of the user. -/
theorem planned_rested {planned : Timestamp}
    (updates : operation = .updateRefreshed discordId planned ∨ operation = .updateFailed discordId planned)
    (accepted : (answer state outside tables operation).1.isOk = true)
    (late : moment + 2 * Oauth.hour ≤ planned) :
    Rested (answer state outside tables operation).2 moment discordId := by
  unfold answer at accepted ⊢
  cases refused : outside.refused operation with
  | some error =>
      rw [refused] at accepted
      cases accepted
  | none =>
      rw [refused] at accepted
      dsimp only at accepted ⊢
      intro row member same
      rcases updates with rfl | rfl
      · have sets := updateRefreshed_planned member
        rw [if_pos same] at sets
        exact sets ▸ late
      · change row ∈ (writing tables (tables.updateFailed discordId planned)).2.osuUsers.rows at member
        change (writing tables (tables.updateFailed discordId planned)).1.isOk = true at accepted
        cases written : tables.updateFailed discordId planned with
        | error error =>
            rw [written] at accepted
            cases accepted
        | ok after =>
            rw [written] at member
            have sets := updateFailed_planned written member
            rw [if_pos same] at sets
            exact sets ▸ late

end Stage

section Advance

variable {state : AppState} {floor moment : Timestamp} {tables : Tables} {outside : Outside}
  {system : System} {discordId : DiscordId} {job index : Nat} {operation : WebOp}
  {next : Except AppError operation.Value → WebProgram (List (WebProgram Unit))}
  {front back : List (Thread WebOp WebOp.Value AppError)}

/-- The operation of a thread in the service of a round. -/
structure Moves (state : AppState) (system : System) (moment : Timestamp) (outside : Outside)
    (front back : List (Thread WebOp WebOp.Value AppError)) (job : Nat) (operation : WebOp)
    (next : Except AppError operation.Value → WebProgram (List (WebProgram Unit))) : Prop where
  split : system.threads = front ++ ⟨job, .call operation next⟩ :: back
  clock : moment ≤ outside.now
  own : (⟨job, .call operation next⟩ : Thread WebOp WebOp.Value AppError).Confined calm ∨
    system.refreshing job = true ∧ ∃ discordId, Serves true (moment ≤ ·) discordId ⟨job, .call operation next⟩
  served : system.refreshing job = true → schedules operation = true →
    (answer state outside system.tables operation).1.isOk = true

/-- The system after the operation. -/
def moved (state : AppState) (system : System) (outside : Outside)
    (front back : List (Thread WebOp WebOp.Value AppError)) (job : Nat) (operation : WebOp)
    (next : Except AppError operation.Value → WebProgram (List (WebProgram Unit))) : System :=
  { system with
    tables := (answer state outside system.tables operation).2
    threads := front ++ (Thread.settled ⟨job, next (answer state outside system.tables operation).1⟩ ++ back) }

variable (moves : Moves state system moment outside front back job operation next)

include moves

/-- The operation plans no refresh before two hours have passed, and the thread goes on as it should. -/
theorem Moves.sets : tasked operation ∧
    (∀ row, Reset outside.now row operation → moment + 2 * Oauth.hour ≤ row.nextRefreshAt) ∧
    ∀ thread ∈ Thread.settled ⟨job, next (answer state outside system.tables operation).1⟩,
      Dutiful true (moment ≤ ·) thread ∧ (system.refreshing job = false → thread.Confined calm) := by
  obtain confined | ⟨refreshing, other, serves⟩ := moves.own
  · have still : calm operation := confined.1
    refine ⟨tasked_of_calm still, fun row => calm_sets moves.clock still, fun thread member => ?_⟩
    have settled := confined_settled (confined.2 _ trivial) thread member
    exact ⟨.inl settled, fun _ => settled⟩
  · have advanced := @serves_advance state true (moment ≤ ·) (moment ≤ ·) outside system.tables other
      operation job next (fun _ past => past) moves.clock serves fun _ => moves.served refreshing
    cases advanced with
    | goes still serves alone =>
        refine ⟨tasked_of_calm still, fun row => calm_sets moves.clock still, fun thread member => ?_⟩
        refine ⟨.inr ⟨other, serves thread member⟩, fun off => ?_⟩
        rw [refreshing] at off
        cases off
    | plans read planned inside inTime updates dutiful quiet =>
        refine ⟨?_, fun row reset => ?_, fun thread member => ⟨dutiful thread member, fun _ => quiet rfl thread member⟩⟩
        · rcases updates with rfl | rfl <;> trivial
        · rcases updates with rfl | rfl <;> exact reset.2 ▸ inTime_after inside inTime

/-- An operation of a task changes the schedule by a reset at most. -/
theorem Moves.resets : Resets outside.now operation system.tables (answer state outside system.tables operation).2 :=
  answer_resets state outside system.tables moves.sets.1

/-- A user who is refreshed is refreshed still, or the next refresh has been planned. -/
theorem Moves.busy (busy : Busy system moment discordId) :
    Rested (answer state outside system.tables operation).2 moment discordId ∨
      Busy (moved state system outside front back job operation next) moment discordId := by
  obtain ⟨thread, member, refreshing, serves⟩ := busy
  rw [moves.split] at member
  obtain early | rest := List.mem_append.mp member
  · exact .inr ⟨thread, List.mem_append_left _ early, refreshing, serves⟩
  · obtain rfl | late := List.mem_cons.mp rest
    · have advanced := @serves_advance state true (moment ≤ ·) (moment ≤ ·) outside system.tables discordId
        operation job next (fun _ past => past) moves.clock serves fun _ => moves.served refreshing
      cases advanced with
      | goes still serves alone =>
          refine .inr ⟨⟨job, next (answer state outside system.tables operation).1⟩,
            List.mem_append_right _ (List.mem_append_left _ ?_), refreshing, serves _ ?_⟩
          · rw [alone rfl]
            exact List.mem_singleton_self _
          · rw [alone rfl]
            exact List.mem_singleton_self _
      | plans read planned inside inTime updates dutiful quiet =>
          refine .inl (planned_rested updates (moves.served refreshing ?_) (inTime_after inside inTime))
          rcases updates with rfl | rfl <;> rfl
    · exact .inr ⟨thread, List.mem_append_right _ (List.mem_append_right _ late), refreshing, serves⟩

/-- Only the query for due users opens a round. -/
theorem Moves.unopened : roundOf state outside system.tables operation = [] := by
  have planless : calm operation → roundOf state outside system.tables operation = [] := by
    intro still
    cases operation with
    | selectDue limit => exact still.elim
    | _ => rfl
  obtain confined | ⟨_, other, read, _, allowed, _⟩ := moves.own
  · exact planless confined.1
  · obtain still | ⟨planned, updates, _⟩ := duty_allowed allowed
    · exact planless still
    · rcases updates with rfl | rfl <;> rfl

end Advance

section Step

variable {state : AppState} {floor moment : Timestamp} {schedule reached : Schedule} {outside : Outside}
  {job index : Nat} {operation : WebOp}
  {next : Except AppError operation.Value → WebProgram (List (WebProgram Unit))}
  {front back : List (Thread WebOp WebOp.Value AppError)}

/-- The schedule after an operation that opens no round. -/
def Schedule.advanced (state : AppState) (schedule : Schedule) (outside : Outside)
    (front back : List (Thread WebOp WebOp.Value AppError)) (job : Nat) (operation : WebOp)
    (next : Except AppError operation.Value → WebProgram (List (WebProgram Unit))) : Schedule :=
  { schedule with system := moved state schedule.system outside front back job operation next }

/-- The threads after an operation belong to tasks that have begun. -/
theorem Kept.members_moved (kept : Kept state floor schedule)
    (moves : Moves state schedule.system moment outside front back job operation next) :
    (∀ thread ∈ (moved state schedule.system outside front back job operation next).threads,
      thread.job < schedule.system.tasks.length) ∧
      ∀ thread ∈ (moved state schedule.system outside front back job operation next).threads,
        schedule.system.refreshing thread.job = false → thread.Confined calm := by
  have own : (⟨job, .call operation next⟩ : Thread WebOp WebOp.Value AppError) ∈ schedule.system.threads := by
    rw [moves.split]
    exact List.mem_append_right _ List.mem_cons_self
  refine ⟨fun thread member => ?_, fun thread member off => ?_⟩
  · obtain old | new := mem_advanced member
    · exact kept.numbered thread (moves.split ▸ old)
    · rw [Thread.job_settled new]
      exact kept.numbered ⟨job, .call operation next⟩ own
  · obtain old | new := mem_advanced member
    · exact kept.members thread (moves.split ▸ old) off
    · exact (moves.sets.2.2 thread new).2 (by rwa [Thread.job_settled new] at off)

/-- An operation in the service of the last round. -/
theorem serving_advance (kept : Kept state floor schedule) (first : floor ≤ moment)
    (past : moment ≤ schedule.now)
    (latest : ∀ round ∈ schedule.rounds, round.moment ≤ moment)
    (threads : ∀ thread ∈ schedule.system.threads, schedule.system.refreshing thread.job = true →
      Dutiful true (moment ≤ ·) thread)
    (users : ∀ round ∈ schedule.rounds, ∀ discordId ∈ round.users,
      Rested schedule.system.tables round.moment discordId ∨
        round.moment = moment ∧ Busy schedule.system moment discordId)
    (moves : Moves state schedule.system moment outside front back job operation next) :
    Kept state floor (schedule.advanced state outside front back job operation next) ∧
      Effect state floor schedule (schedule.advanced state outside front back job operation next) := by
  obtain ⟨numbered, members⟩ := kept.members_moved moves
  refine ⟨⟨numbered, members, kept.later, kept.moments, kept.spaced, kept.sized, ?_⟩, ?_, .inl rfl⟩
  · refine .serving moment first past latest (fun thread member refreshing => ?_) fun round listed discordId user => ?_
    · obtain old | new := mem_advanced member
      · exact threads thread (moves.split ▸ old) refreshing
      · exact (moves.sets.2.2 thread new).1
    · obtain rested | ⟨same, busy⟩ := users round listed discordId user
      · refine .inl (rested_resets rested moves.resets fun row reset => ?_)
        exact (Int.add_le_add_right (latest round listed) _).trans (moves.sets.2.1 row reset)
      · exact (moves.busy busy).imp (fun rested => same ▸ rested) fun still => ⟨same, still⟩
  · intro row member
    refine (moves.resets row member).imp id fun reset => ?_
    exact (Int.add_le_add_right first _).trans (moves.sets.2.1 row reset)

/-- An operation of a member while a round waits for its users. -/
theorem waiting_advance (kept : Kept state floor schedule) (now : outside.now = schedule.now)
    (single : schedule.system.threads.countP (fun thread => schedule.system.refreshing thread.job) = 1)
    (threads : ∀ thread ∈ schedule.system.threads, schedule.system.refreshing thread.job = true →
      thread.program = asking state)
    (rested : ∀ round ∈ schedule.rounds, ∀ discordId ∈ round.users,
      Rested schedule.system.tables round.moment discordId)
    (split : schedule.system.threads = front ++ ⟨job, .call operation next⟩ :: back)
    (member : schedule.system.refreshing job = false) :
    Kept state floor (schedule.advanced state outside front back job operation next) ∧
      Effect state floor schedule (schedule.advanced state outside front back job operation next) := by
  have confined : (⟨job, .call operation next⟩ : Thread WebOp WebOp.Value AppError).Confined calm := by
    refine kept.members _ ?_ member
    rw [split]
    exact List.mem_append_right _ List.mem_cons_self
  have moves : ∀ {moment}, moment ≤ schedule.now →
      Moves state schedule.system moment outside front back job operation next := fun {moment} past =>
    ⟨split, now ▸ past, .inl confined, fun on => by rw [member] at on; cases on⟩
  obtain ⟨numbered, members⟩ := kept.members_moved (moves kept.later)
  have idle : ∀ thread ∈ Thread.settled
      ⟨job, next (answer state outside schedule.system.tables operation).1⟩,
      ¬schedule.system.refreshing thread.job = true := by
    intro thread fresh
    rw [Thread.job_settled fresh, Bool.not_eq_true]
    exact member
  refine ⟨⟨numbered, members, kept.later, kept.moments, kept.spaced, kept.sized, ?_⟩, ?_, .inl rfl⟩
  · refine .waiting ?_ (fun thread inside refreshing => ?_) fun round listed discordId user => ?_
    · change (front ++ (Thread.settled
        ⟨job, next (answer state outside schedule.system.tables operation).1⟩ ++ back)).countP
          (fun thread => schedule.system.refreshing thread.job) = 1
      rw [split, List.countP_append, List.countP_cons_of_neg (Bool.not_eq_true _ ▸ member)] at single
      rw [List.countP_append, List.countP_append, List.countP_eq_zero.mpr idle, Nat.zero_add]
      exact single
    · obtain old | new := mem_advanced inside
      · exact threads thread (split ▸ old) refreshing
      · exact (idle thread new refreshing).elim
    · have past := moves (kept.moments round listed).2
      exact rested_resets (rested round listed discordId user) past.resets past.sets.2.1
  · intro row inside
    exact ((moves kept.later).resets row inside).imp id ((moves kept.later).sets.2.1 row)

/-- The schedule after the answer to the query of a round. -/
def Schedule.answered (state : AppState) (schedule : Schedule) (outside : Outside)
    (front back : List (Thread WebOp WebOp.Value AppError)) (job : Nat) : Schedule :=
  { schedule with
    system := moved state schedule.system outside front back job (.selectDue (batchSize state)) (branches state)
    rounds := schedule.rounds ++ roundOf state outside schedule.system.tables (.selectDue (batchSize state)) }

/-- The query fails, or it takes the users that are due. -/
theorem selectDue_answer (state : AppState) (outside : Outside) (tables : Tables) (limit : Nat) :
    (∃ error, (answer state outside tables (.selectDue limit)).1 = .error error ∧
      roundOf state outside tables (.selectDue limit) = []) ∨
    (answer state outside tables (.selectDue limit)).1 = .ok (tables.selectDue outside.now limit) ∧
      roundOf state outside tables (.selectDue limit) =
        [⟨outside.now, (tables.selectDue outside.now limit).map Prod.fst⟩] := by
  cases refused : outside.refused (.selectDue limit) with
  | some error =>
      have failed : (answer state outside tables (.selectDue limit)).1 = .error error := by
        unfold answer
        rw [refused]
      refine .inl ⟨error, failed, ?_⟩
      unfold roundOf
      dsimp only
      rw [failed]
  | none =>
      have listed : (answer state outside tables (.selectDue limit)).1 =
          .ok (tables.selectDue outside.now limit) := by
        unfold answer
        rw [refused]
        rfl
      refine .inr ⟨listed, ?_⟩
      unfold roundOf
      dsimp only
      rw [listed]

/-- The round gets its users. -/
theorem waiting_answered (kept : Kept state floor schedule) (now : outside.now = schedule.now)
    (single : schedule.system.threads.countP (fun thread => schedule.system.refreshing thread.job) = 1)
    (rested : ∀ round ∈ schedule.rounds, ∀ discordId ∈ round.users,
      Rested schedule.system.tables round.moment discordId)
    (split : schedule.system.threads = front ++ ⟨job, asking state⟩ :: back)
    (refreshing : schedule.system.refreshing job = true) :
    Kept state floor (schedule.answered state outside front back job) ∧
      Effect state floor schedule (schedule.answered state outside front back job) := by
  have read : (answer state outside schedule.system.tables (.selectDue (batchSize state))).2 =
      schedule.system.tables := answer_reads state outside schedule.system.tables trivial
  have same : (schedule.answered state outside front back job).system.tables = schedule.system.tables := read
  have others : ∀ thread ∈ front ++ back, schedule.system.refreshing thread.job = false := by
    have counted : (⟨job, asking state⟩ :: back : List (Thread WebOp WebOp.Value AppError)).countP
        (fun thread => schedule.system.refreshing thread.job) =
          back.countP (fun thread => schedule.system.refreshing thread.job) + 1 :=
      List.countP_cons_of_pos (by exact refreshing)
    rw [split, List.countP_append, counted] at single
    have early : front.countP (fun thread => schedule.system.refreshing thread.job) = 0 := by omega
    have late : back.countP (fun thread => schedule.system.refreshing thread.job) = 0 := by omega
    intro thread member
    rw [← Bool.not_eq_true]
    exact (List.mem_append.mp member).elim (List.countP_eq_zero.mp early thread)
      (List.countP_eq_zero.mp late thread)
  have old : ∀ thread ∈ front ++ back, thread ∈ schedule.system.threads := fun thread member => by
    rw [split]
    exact (List.mem_append.mp member).elim (List.mem_append_left _)
      fun late => List.mem_append_right _ (List.mem_cons_of_mem _ late)
  have placed : ∀ thread ∈ (schedule.answered state outside front back job).system.threads,
      thread ∈ front ++ back ∨ thread ∈ Thread.settled ⟨job, branches state
        (answer state outside schedule.system.tables (.selectDue (batchSize state))).1⟩ := by
    intro thread member
    obtain early | rest := List.mem_append.mp member
    · exact .inl (List.mem_append_left _ early)
    · obtain new | late := List.mem_append.mp rest
      · exact .inr new
      · exact .inl (List.mem_append_right _ late)
  have opened : ∀ round ∈ roundOf state outside schedule.system.tables (.selectDue (batchSize state)),
      round = ⟨schedule.now, (schedule.system.tables.selectDue schedule.now (batchSize state)).map Prod.fst⟩ ∧
        ∀ discordId ∈ round.users,
          Busy (schedule.answered state outside front back job).system schedule.now discordId := by
    intro round member
    obtain ⟨error, _, none⟩ | ⟨listed, one⟩ := selectDue_answer state outside schedule.system.tables (batchSize state)
    · rw [none] at member
      exact absurd member List.not_mem_nil
    · rw [one, List.mem_singleton] at member
      subst member
      refine ⟨by rw [now], fun discordId user => ?_⟩
      obtain ⟨due, inside, rfl⟩ := List.mem_map.mp user
      refine ⟨Thread.branch job (refreshUser state due), ?_, refreshing, branch_serves job due⟩
      refine List.mem_append_right _ (List.mem_append_left _ ?_)
      rw [listed]
      exact List.mem_map_of_mem (List.mem_map_of_mem inside)
  have rounds : ∀ round ∈ (schedule.answered state outside front back job).rounds,
      round ∈ schedule.rounds ∨
        round ∈ roundOf state outside schedule.system.tables (.selectDue (batchSize state)) :=
    fun round member => List.mem_append.mp member
  refine ⟨⟨fun thread member => ?_, fun thread member off => ?_, kept.later, fun round member => ?_, ?_,
    fun round member => ?_, ?_⟩, fun row member => ?_, ?_⟩
  · obtain kept_old | new := placed thread member
    · exact kept.numbered thread (old thread kept_old)
    · rw [Thread.job_settled new]
      refine kept.numbered ⟨job, asking state⟩ ?_
      rw [split]
      exact List.mem_append_right _ List.mem_cons_self
  · obtain kept_old | new := placed thread member
    · exact kept.members thread (old thread kept_old) off
    · rw [Thread.job_settled new] at off
      exact absurd (off.symm.trans refreshing) Bool.false_ne_true
  · obtain before | new := rounds round member
    · exact kept.moments round before
    · rw [(opened round new).1]
      exact ⟨kept.later, le_refl _⟩
  · refine List.pairwise_append.mpr ⟨kept.spaced, ?_, fun first before second new discordId user again => ?_⟩
    · obtain ⟨_, _, none⟩ | ⟨_, one⟩ := selectDue_answer state outside schedule.system.tables (batchSize state)
      · rw [none]
        exact .nil
      · rw [one]
        exact List.pairwise_singleton _ _
    · rw [(opened second new).1] at again ⊢
      obtain ⟨row, stored, owner, due⟩ := mem_selectDue again
      exact (rested first before discordId user row stored owner).trans due
  · obtain before | new := rounds round member
    · exact kept.sized round before
    · rw [(opened round new).1]
      exact ⟨selectDue_nodup, selectDue_length⟩
  · refine .serving schedule.now kept.later (le_refl _) (fun round member => ?_)
      (fun thread member on => ?_) fun round member discordId user => ?_
    · obtain before | new := rounds round member
      · exact (kept.moments round before).2
      · rw [(opened round new).1]
    · obtain kept_old | new := placed thread member
      · exact absurd ((others thread kept_old).symm.trans on) Bool.false_ne_true
      · obtain ⟨due, _, rfl⟩ := mem_branches new
        exact .inr ⟨due.1, branch_serves job due⟩
    · obtain before | new := rounds round member
      · exact .inl (same ▸ rested round before discordId user)
      · refine .inr ⟨?_, (opened round new).2 discordId user⟩
        rw [(opened round new).1]
  · exact .inl ⟨row, same ▸ member, rfl, rfl⟩
  · obtain ⟨_, _, none⟩ | ⟨_, one⟩ := selectDue_answer state outside schedule.system.tables (batchSize state)
    · left
      change schedule.rounds ++ _ = _
      rw [none, List.append_nil]
    · right
      refine ⟨rested, ?_⟩
      change schedule.rounds ++ _ = _
      rw [one, now]

/-- Without a change of the tables no user is reset. -/
theorem effect_same (same : reached.system.tables = schedule.system.tables)
    (rounds : reached.rounds = schedule.rounds) : Effect state floor schedule reached :=
  ⟨fun row member => .inl ⟨row, same ▸ member, rfl, rfl⟩, .inl rounds⟩

/-- The system after a task has begun. -/
def System.begun (state : AppState) (system : System) (task : Task) : System :=
  { system with
    threads := system.threads ++ Thread.settled ⟨system.tasks.length, task.program state⟩
    tasks := system.tasks ++ [task] }

section Begin

variable {system : System} {task : Task} {thread : Thread WebOp WebOp.Value AppError}

/-- A new task leaves the kind of the old threads. -/
theorem refreshing_old (numbered : ∀ thread ∈ system.threads, thread.job < system.tasks.length)
    (member : thread ∈ system.threads) :
    (system.begun state task).refreshing thread.job = system.refreshing thread.job := by
  unfold System.refreshing System.begun
  rw [List.getElem?_append_left (numbered thread member)]

/-- The threads of a new task are of its kind. -/
theorem refreshing_fresh
    (member : thread ∈ Thread.settled ⟨system.tasks.length, task.program state⟩) :
    (system.begun state task).refreshing thread.job = task.isRefresh := by
  rw [Thread.job_settled member]
  unfold System.refreshing System.begun
  rw [List.getElem?_concat_length, Option.any_some]

/-- The threads of the task are the only new ones that may belong to a round. -/
theorem count_begun (numbered : ∀ thread ∈ system.threads, thread.job < system.tasks.length) :
    (system.begun state task).threads.countP
        (fun thread => (system.begun state task).refreshing thread.job) =
      system.threads.countP (fun thread => system.refreshing thread.job) +
        (Thread.settled ⟨system.tasks.length, task.program state⟩).countP fun _ => task.isRefresh := by
  refine (List.countP_append ..).trans (congrArg₂ _ ?_ ?_)
  · refine List.countP_congr fun thread member => ?_
    rw [refreshing_old numbered member]
  · refine List.countP_congr fun thread member => ?_
    rw [refreshing_fresh member]

end Begin

/-- No thread of a round is left between two rounds. -/
theorem count_idle
    (alone : ∀ thread ∈ schedule.system.threads, schedule.system.refreshing thread.job = false) :
    schedule.system.threads.countP (fun thread => schedule.system.refreshing thread.job) = 0 := by
  refine List.countP_eq_zero.mpr fun thread member => ?_
  rw [Bool.not_eq_true]
  exact alone thread member

/-- No round is under way. -/
theorem Kept.all_rested (kept : Kept state floor schedule)
    (alone : ∀ thread ∈ schedule.system.threads, schedule.system.refreshing thread.job = false) :
    ∃ moment, floor ≤ moment ∧ moment ≤ schedule.now ∧ (∀ round ∈ schedule.rounds, round.moment ≤ moment) ∧
      ∀ round ∈ schedule.rounds, ∀ discordId ∈ round.users,
        Rested schedule.system.tables round.moment discordId := by
  cases kept.stage with
  | waiting single threads rested =>
      rw [count_idle alone] at single
      cases single
  | serving moment first past latest threads users =>
      refine ⟨moment, first, past, latest, fun round listed discordId user => ?_⟩
      refine (users round listed discordId user).resolve_right ?_
      rintro ⟨_, thread, member, refreshing, _⟩
      exact absurd ((alone thread member).symm.trans refreshing) Bool.false_ne_true

/-- A task begins. -/
theorem kept_begin (kept : Kept state floor schedule) (task : Task)
    (ordered : Orderly state schedule (.event (.begin task))) :
    Kept state floor { schedule with system := schedule.system.begun state task } := by
  refine ⟨fun thread member => ?_, fun thread member off => ?_, kept.later, kept.moments, kept.spaced, kept.sized, ?_⟩
  · change thread.job < (schedule.system.tasks ++ [task]).length
    rw [List.length_append, List.length_singleton]
    obtain old | fresh := List.mem_append.mp member
    · exact Nat.lt_succ_of_lt (kept.numbered thread old)
    · rw [Thread.job_settled fresh]
      exact Nat.lt_succ_self _
  · obtain old | fresh := List.mem_append.mp member
    · exact kept.members thread old ((refreshing_old kept.numbered old).symm.trans off)
    · have kind := (refreshing_fresh fresh).symm.trans off
      exact confined_settled (member_confined state kind _) thread fresh
  · cases kind : task.isRefresh with
    | false =>
        have own : ∀ thread ∈ (schedule.system.begun state task).threads,
            (schedule.system.begun state task).refreshing thread.job = true →
              thread ∈ schedule.system.threads ∧ schedule.system.refreshing thread.job = true := by
          intro thread member on
          obtain old | fresh := List.mem_append.mp member
          · exact ⟨old, (refreshing_old kept.numbered old).symm.trans on⟩
          · rw [refreshing_fresh fresh, kind] at on
            cases on
        cases kept.stage with
        | serving moment first past latest threads users =>
            refine .serving moment first past latest (fun thread member on => ?_)
              fun round listed discordId user => (users round listed discordId user).imp_right ?_
            · obtain ⟨old, refreshing⟩ := own thread member on
              exact threads thread old refreshing
            · rintro ⟨equal, thread, member, refreshing, serves⟩
              exact ⟨equal, thread, List.mem_append_left _ member,
                (refreshing_old kept.numbered member).trans refreshing, serves⟩
        | waiting single threads rested =>
            refine .waiting ?_ (fun thread member on => ?_) rested
            · rw [count_begun kept.numbered, single, kind, List.countP_false]
              rfl
            · obtain ⟨old, refreshing⟩ := own thread member on
              exact threads thread old refreshing
    | true =>
        have alone := ordered kind
        obtain ⟨moment, first, past, latest, rested⟩ := kept.all_rested alone
        have fresh : ∀ thread ∈ (schedule.system.begun state task).threads,
            (schedule.system.begun state task).refreshing thread.job = true →
              thread ∈ Thread.settled ⟨schedule.system.tasks.length, task.program state⟩ := by
          intro thread member on
          obtain old | new := List.mem_append.mp member
          · rw [refreshing_old kept.numbered old, alone thread old] at on
            cases on
          · exact new
        obtain rfl : task = .refresh := by
          cases task with
          | refresh => rfl
          | callback query => cases kind
          | unlink headers => cases kind
        obtain empty | asks := pass_cases state
        · refine .serving moment first past latest (fun thread member on => ?_)
            fun round listed discordId user => .inl (rested round listed discordId user)
          have new := fresh thread member on
          change thread ∈ Thread.settled ⟨_, pass state⟩ at new
          rw [empty] at new
          exact absurd new List.not_mem_nil
        · refine .waiting ?_ (fun thread member on => ?_) rested
          · rw [count_begun kept.numbered, count_idle alone, Nat.zero_add]
            change (Thread.settled ⟨_, pass state⟩).countP _ = 1
            rw [asks]
            rfl
          · have new := fresh thread member on
            change thread ∈ Thread.settled ⟨_, pass state⟩ at new
            rw [asks] at new
            exact congrArg Thread.program (List.mem_singleton.mp new)

/-- The process of a member stops. -/
theorem kept_stop (kept : Kept state floor schedule) {stopped : Nat}
    (ordered : schedule.system.refreshing stopped = false) :
    Kept state floor { schedule with system := { schedule.system with
      threads := schedule.system.threads.filter fun thread => thread.job ≠ stopped } } := by
  have inside : ∀ thread ∈ schedule.system.threads.filter fun thread => thread.job ≠ stopped,
      thread ∈ schedule.system.threads := fun thread member => (List.mem_filter.mp member).1
  refine ⟨fun thread member => kept.numbered thread (inside thread member),
    fun thread member => kept.members thread (inside thread member), kept.later, kept.moments, kept.spaced,
    kept.sized, ?_⟩
  cases kept.stage with
  | serving moment first past latest threads users =>
      refine .serving moment first past latest (fun thread member => threads thread (inside thread member))
        fun round listed discordId user => (users round listed discordId user).imp_right ?_
      rintro ⟨same, thread, member, refreshing, serves⟩
      refine ⟨same, thread, List.mem_filter.mpr ⟨member, decide_eq_true fun other => ?_⟩, refreshing, serves⟩
      rw [other, ordered] at refreshing
      cases refreshing
  | waiting single threads rested =>
      refine .waiting ?_ (fun thread member => threads thread (inside thread member)) rested
      refine Eq.trans ?_ single
      rw [List.countP_filter]
      refine List.countP_congr fun thread _ => ?_
      rw [Bool.and_eq_true]
      refine and_iff_left_of_imp fun refreshing => decide_eq_true fun other => ?_
      change schedule.system.refreshing thread.job = true at refreshing
      rw [other, ordered] at refreshing
      cases refreshing

/-- A thread performs its operation. -/
theorem kept_advance (kept : Kept state floor schedule) (now : outside.now = schedule.now)
    (split : schedule.system.threads = front ++ ⟨job, .call operation next⟩ :: back)
    (served : schedule.system.refreshing job = true → schedules operation = true →
      (answer state outside schedule.system.tables operation).1.isOk = true) :
    Kept state floor { schedule with
        system := moved state schedule.system outside front back job operation next
        rounds := schedule.rounds ++ roundOf state outside schedule.system.tables operation } ∧
      Effect state floor schedule { schedule with
        system := moved state schedule.system outside front back job operation next
        rounds := schedule.rounds ++ roundOf state outside schedule.system.tables operation } := by
  have own : (⟨job, .call operation next⟩ : Thread WebOp WebOp.Value AppError) ∈ schedule.system.threads := by
    rw [split]
    exact List.mem_append_right _ List.mem_cons_self
  cases kept.stage with
  | serving moment first past latest threads users =>
      have moves : Moves state schedule.system moment outside front back job operation next := by
        refine ⟨split, now ▸ past, ?_, served⟩
        cases on : schedule.system.refreshing job with
        | false => exact .inl (kept.members _ own on)
        | true => exact (threads _ own on).imp_right fun serves => ⟨rfl, serves⟩
      rw [moves.unopened, List.append_nil]
      exact serving_advance kept first past latest threads users moves
  | waiting single threads rested =>
      cases on : schedule.system.refreshing job with
      | false =>
          have moves : Moves state schedule.system floor outside front back job operation next :=
            ⟨split, now ▸ kept.later, .inl (kept.members _ own on), served⟩
          rw [moves.unopened, List.append_nil]
          exact waiting_advance kept now single threads rested split on
      | true =>
          cases threads _ own on
          exact waiting_answered kept now single rested split on

/-- Each orderly step keeps the rounds apart. -/
theorem kept_step (kept : Kept state floor schedule) {event : Schedule.Event}
    (ordered : Orderly state schedule event) (stepped : schedule.step state event = some reached) :
    Kept state floor reached ∧ Effect state floor schedule reached := by
  cases event with
  | tick elapsed =>
      cases stepped
      have later : schedule.now ≤ schedule.now + elapsed := Int.le_add_of_nonneg_right (Int.natCast_nonneg _)
      refine ⟨⟨kept.numbered, kept.members, kept.later.trans later, fun round member =>
        ⟨(kept.moments round member).1, (kept.moments round member).2.trans later⟩, kept.spaced, kept.sized, ?_⟩,
        effect_same rfl rfl⟩
      cases kept.stage with
      | serving moment first past latest threads users =>
          exact .serving moment first (past.trans later) latest threads users
      | waiting single threads rested => exact .waiting single threads rested
  | event event =>
      obtain ⟨system, moves, rfl⟩ := Option.map_eq_some_iff.mp stepped
      cases event with
      | begin task =>
          cases moves
          have unopened : schedule.rounds ++ schedule.system.opens state
              ((Refresh.Event.begin task).at schedule.now) = schedule.rounds := List.append_nil _
          rw [unopened]
          exact ⟨kept_begin kept task ordered, effect_same rfl rfl⟩
      | stop job =>
          cases moves
          have unopened : schedule.rounds ++ schedule.system.opens state
              ((Refresh.Event.stop job).at schedule.now) = schedule.rounds := List.append_nil _
          rw [unopened]
          exact ⟨kept_stop kept ordered, effect_same rfl rfl⟩
      | advance index outside =>
          obtain ⟨⟨tables, threads⟩, advanced, rfl⟩ := Option.map_eq_some_iff.mp moves
          obtain ⟨front, job, operation, next, back, split, found, rfl, rfl⟩ := advance_cases advanced
          have waits : schedule.system.waiting index = some operation := by
            rw [System.waiting, found]
            rfl
          have opens : schedule.system.opens state ((Refresh.Event.advance index outside).at schedule.now) =
              roundOf state { outside with now := schedule.now } schedule.system.tables operation := by
            change (schedule.system.waiting index).toList.flatMap _ = _
            rw [waits]
            exact List.append_nil _
          rw [opens]
          exact kept_advance kept rfl split fun refreshing => ordered _ found refreshing operation rfl

end Step

section Run

variable {state : AppState} {tables : Tables} {now : Timestamp} {schedule last reached : Schedule}
  {events : List Schedule.Event}

/-- At the start no round has begun. -/
theorem kept_start (state : AppState) (tables : Tables) (now : Timestamp) :
    Kept state now (.start tables now) where
  numbered _ impossible := absurd impossible List.not_mem_nil
  members _ impossible := absurd impossible List.not_mem_nil
  later := le_refl now
  moments _ impossible := absurd impossible List.not_mem_nil
  spaced := .nil
  sized _ impossible := absurd impossible List.not_mem_nil
  stage := .serving now (le_refl now) (le_refl now) (fun _ impossible => absurd impossible List.not_mem_nil)
    (fun _ impossible => absurd impossible List.not_mem_nil)
    fun _ impossible => absurd impossible List.not_mem_nil

/-- In every orderly run two refreshes of a user are two hours apart, and a round takes no more users than
its batch, each of them once. -/
theorem refreshes_spaced (state : AppState) (tables : Tables) (now : Timestamp)
    (ordered : EventRun.Guarded (Schedule.step state) (Orderly state) (.start tables now) events)
    (ran : EventRun.run (Schedule.step state) (.start tables now) events = some last) :
    last.rounds.Pairwise Spaced ∧
      ∀ round ∈ last.rounds, round.users.Nodup ∧ round.users.length ≤ batchSize state := by
  have kept := EventRun.run_invariant (Kept state now)
    (fun _ _ _ kept ordered stepped => (kept_step kept ordered stepped).1) (kept_start state tables now) ordered ran
  exact ⟨kept.spaced, kept.sized⟩

/-- After six hours the player is refreshed again. -/
def refreshedTwice : List Schedule.Event :=
  refreshedOnce ++ .tick (6 * 3600 * 1000000) :: refreshedOnce

/-- The sample account is taken twice, hours apart. -/
theorem two_refreshes_spaced :
    ∃ last ∈ EventRun.run (Schedule.step Sample.appState) (.start Sample.linkedPlayer 0) refreshedTwice,
      last.rounds.map Round.users = [["1"], ["1"]] ∧ last.rounds.Pairwise Spaced := by
  have ran : ∃ last ∈ EventRun.run (Schedule.step Sample.appState) (.start Sample.linkedPlayer 0) refreshedTwice,
      last.rounds.map Round.users = [["1"], ["1"]] := by decide +kernel
  obtain ⟨last, ran, users⟩ := ran
  exact ⟨last, ran, users,
    (refreshes_spaced Sample.appState Sample.linkedPlayer 0 (by decide +kernel) ran).1⟩

/-- These users are due before the user or with the user. -/
def ahead (tables : Tables) (row : OsuUser) : List OsuUser :=
  tables.osuUsers.rows.filter fun other =>
    other.discordId ≠ row.discordId ∧ other.nextRefreshAt ≤ row.nextRefreshAt

variable {row : OsuUser}

/-- The rounds that pass over a user take full batches of those who were ahead, each of them once. -/
structure Passing (state : AppState) (tables : Tables) (row : OsuUser) (schedule : Schedule) : Prop where
  full : ∀ round ∈ schedule.rounds, round.users.length = batchSize state
  ahead : ∀ round ∈ schedule.rounds, ∀ discordId ∈ round.users,
    discordId ∈ (ahead tables row).map OsuUser.discordId
  once : (schedule.rounds.flatMap Round.users).Nodup

structure Fair (state : AppState) (now : Timestamp) (tables : Tables) (row : OsuUser) (schedule : Schedule) :
    Prop where
  kept : Kept state now schedule
  rivals : ∀ other ∈ schedule.system.tables.osuUsers.rows, other.nextRefreshAt ≤ row.nextRefreshAt →
    other.discordId ≠ row.discordId → other.discordId ∈ (ahead tables row).map OsuUser.discordId
  passing : (∀ round ∈ schedule.rounds, row.discordId ∉ round.users) → Passing state tables row schedule

/-- A round that passes over the user takes others who were ahead and have not been taken. -/
theorem passing_round (fair : Fair state now tables row schedule) (due : row.nextRefreshAt ≤ now)
    (waits : Planned schedule.system.tables row)
    (rested : ∀ round ∈ schedule.rounds, ∀ discordId ∈ round.users,
      Rested schedule.system.tables round.moment discordId)
    (earlier : Passing state tables row schedule)
    (passed : row.discordId ∉
      (schedule.system.tables.selectDue schedule.now (batchSize state)).map Prod.fst)
    (after : Schedule) (rounds : after.rounds = schedule.rounds ++
      [⟨schedule.now, (schedule.system.tables.selectDue schedule.now (batchSize state)).map Prod.fst⟩]) :
    Passing state tables row after := by
  obtain ⟨own, stored, owner, same⟩ := waits
  have late : own.nextRefreshAt ≤ schedule.now := same ▸ due.trans fair.kept.later
  obtain ⟨full, others⟩ := selectDue_passes stored late (owner ▸ passed)
  rw [owner, same] at others
  refine ⟨fun round member => ?_, fun round member => ?_, ?_⟩
  · rw [rounds] at member
    obtain before | new := List.mem_append.mp member
    · exact earlier.full round before
    · rw [List.mem_singleton.mp new]
      exact full
  · rw [rounds] at member
    obtain before | new := List.mem_append.mp member
    · exact earlier.ahead round before
    · rw [List.mem_singleton.mp new]
      intro discordId user
      obtain ⟨different, other, inside, rfl, first⟩ := others discordId user
      exact fair.rivals other inside first different
  · rw [rounds, List.flatMap_append, List.flatMap_singleton]
    refine List.nodup_append.mpr ⟨earlier.once, selectDue_nodup, fun discordId before other user equal => ?_⟩
    subst equal
    obtain ⟨round, listed, taken⟩ := List.mem_flatMap.mp before
    obtain ⟨_, other, inside, holder, first⟩ := others discordId user
    have apart := rested round listed discordId taken other inside holder
    have begun := (fair.kept.moments round listed).1
    have hours : (0 : Int) < 2 * Oauth.hour := by decide
    exact absurd ((apart.trans first).trans due) (not_le_of_gt (Int.lt_of_lt_of_le
      (Int.lt_add_of_pos_right now hours) (Int.add_le_add_right begun _)))

/-- Each orderly step counts a round against the users ahead. -/
theorem fair_step (fair : Fair state now tables row schedule) (due : row.nextRefreshAt ≤ now)
    {event : Schedule.Event}
    (guard : Orderly state schedule event ∧ Planned schedule.system.tables row)
    (stepped : schedule.step state event = some reached) : Fair state now tables row reached := by
  obtain ⟨kept, effect⟩ := kept_step fair.kept guard.1 stepped
  refine ⟨kept, fun other member first different => ?_, fun passed => ?_⟩
  · obtain ⟨old, inside, owner, same⟩ | late := effect.rows other member
    · rw [← owner] at different ⊢
      exact fair.rivals old inside (same ▸ first) different
    · have hours : (0 : Int) < 2 * Oauth.hour := by decide
      exact absurd ((late.trans first).trans due) (not_le_of_gt (Int.lt_add_of_pos_right now hours))
  · obtain same | ⟨rested, rounds⟩ := effect.rounds
    · rw [same] at passed
      have before := fair.passing passed
      exact ⟨same ▸ before.full, same ▸ before.ahead, same ▸ before.once⟩
    · have earlier : ∀ round ∈ schedule.rounds, row.discordId ∉ round.users := fun round member =>
        passed round (rounds ▸ List.mem_append_left _ member)
      refine passing_round fair due guard.2 rested (fair.passing earlier) ?_ reached rounds
      exact passed _ (rounds ▸ List.mem_append_right _ (List.mem_singleton_self _))

/-- A user who is due waits for at most as many full rounds as the users ahead fill. -/
theorem due_user_reached (state : AppState) (tables : Tables) (now : Timestamp) (row : OsuUser)
    (due : row.nextRefreshAt ≤ now)
    (ordered : EventRun.Guarded (Schedule.step state) (Orderly state) (.start tables now) events)
    (untouched : EventRun.Guarded (Schedule.step state)
      (fun schedule _ => Planned schedule.system.tables row) (.start tables now) events)
    (ran : EventRun.run (Schedule.step state) (.start tables now) events = some last)
    (passed : ∀ round ∈ last.rounds, row.discordId ∉ round.users) :
    last.rounds.length * batchSize state ≤ (ahead tables row).length := by
  have start : Fair state now tables row (.start tables now) := by
    refine ⟨kept_start state tables now, fun other member first different => ?_, fun _ => ?_⟩
    · exact List.mem_map_of_mem (List.mem_filter.mpr ⟨member, decide_eq_true ⟨different, first⟩⟩)
    · exact ⟨fun _ impossible => absurd impossible List.not_mem_nil,
        fun _ impossible => absurd impossible List.not_mem_nil, .nil⟩
  have fair := EventRun.run_invariant (Fair state now tables row)
    (fun _ _ _ fair guard stepped => fair_step fair due guard stepped) start
    (EventRun.guarded_and ordered untouched) ran
  have passing := fair.passing passed
  have inside : last.rounds.flatMap Round.users ⊆ (ahead tables row).map OsuUser.discordId := by
    intro discordId member
    obtain ⟨round, listed, user⟩ := List.mem_flatMap.mp member
    exact passing.ahead round listed discordId user
  calc last.rounds.length * batchSize state
      = (last.rounds.map fun round => round.users.length).sum := by
        rw [List.map_congr_left passing.full, List.map_const', List.sum_replicate_nat]
    _ = (last.rounds.flatMap Round.users).length := List.length_flatMap.symm
    _ ≤ ((ahead tables row).map OsuUser.discordId).length :=
        (List.subperm_of_subset passing.once inside).length_le
    _ = (ahead tables row).length := List.length_map ..

/-- Five players are due, and a batch has four. -/
def fivePlayers : Tables :=
  Sample.oneLink (Sample.roleLink "token" Sample.grantAny)
    ⟨[Sample.user "1" 1, Sample.user "2" 2, Sample.user "3" 3, Sample.user "4" 4, Sample.user "5" 5], by decide⟩
    (by decide)

def slowState : AppState :=
  { Sample.appState with config := { Sample.config with refreshConcurrency := 0 } }

/-- The fifth of five players waits for one round of four. -/
theorem fifth_player_reached :
    ∃ last ∈ EventRun.run (Schedule.step slowState) (.start fivePlayers 0)
        [.event (.begin .refresh), .event (.advance 0 reachable)],
      last.rounds.map Round.users = [["1", "2", "3", "4"]] ∧
        last.rounds.length * batchSize slowState ≤ (ahead fivePlayers (Sample.user "5" 5)).length := by
  have ran : ∃ last ∈ EventRun.run (Schedule.step slowState) (.start fivePlayers 0)
      [.event (.begin .refresh), .event (.advance 0 reachable)],
        last.rounds.map Round.users = [["1", "2", "3", "4"]] ∧
          ∀ round ∈ last.rounds, "5" ∉ round.users := by decide +kernel
  obtain ⟨last, ran, users, passed⟩ := ran
  refine ⟨last, ran, users, ?_⟩
  exact due_user_reached slowState fivePlayers 0 (Sample.user "5" 5) (le_refl 0) (by decide +kernel)
    (by decide +kernel) ran passed

end Run

end OsuPlayerRole.Refresh
