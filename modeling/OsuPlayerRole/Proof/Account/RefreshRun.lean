/-
This file shows when the refresh worker leaves the links between the accounts alone.
-/
import OsuPlayerRole.Construction.Tasks.Refresh
import OsuPlayerRole.Proof.Account.LinkAccount
import OsuPlayerRole.Proof.Web.StatementFrame

namespace OsuPlayerRole.Refresh

open Web Resumption Program KeyedTable

section Pairs

variable {tables after : Tables} {pair : DiscordId × OsuUserId}

/-- A pair is linked exactly when a row holds both ids. -/
theorem mem_linkedPairs :
    pair ∈ linkedPairs tables ↔
      ∃ row ∈ tables.osuUsers.rows, row.discordId = pair.1 ∧ row.osuUserId = pair.2 := by
  unfold linkedPairs
  rw [List.mem_toFinset, List.mem_map]
  refine exists_congr fun row => and_congr_right fun _ => ?_
  exact Prod.ext_iff

/-- An update that keeps both ids keeps the links. -/
theorem updateOsuUsers_pairs (tables : Tables) {change : OsuUser → OsuUser}
    (keeps : ∀ row, (change row).discordId = row.discordId)
    (accounts : ∀ row, (change row).osuUserId = row.osuUserId) :
    linkedPairs (tables.updateOsuUsers change keeps accounts) = linkedPairs tables := by
  unfold linkedPairs
  change ((tables.osuUsers.rows.map change).map _).toFinset = _
  rw [List.map_map]
  have same : (fun row : OsuUser => (row.discordId, row.osuUserId)) ∘ change =
      fun row => (row.discordId, row.osuUserId) := by
    funext row
    exact Prod.ext (keeps row) (accounts row)
  rw [same]

/-- A failed refresh keeps the links. -/
theorem updateFailed_pairs {discordId : DiscordId} {next : Timestamp}
    (written : tables.updateFailed discordId next = .ok after) :
    linkedPairs after = linkedPairs tables := by
  unfold Tables.updateFailed at written
  split at written
  · cases written
    rfl
  · obtain ⟨_, _, remaining⟩ := Checked.bind_ok written
    cases remaining
    exact updateOsuUsers_pairs tables _ _

/-- A new job keeps the links. -/
theorem enqueue_pairs {now : Timestamp} {kind : String} {payload : Json.Value} {delaySecs : Nat}
    (written : tables.enqueue now kind payload delaySecs = .ok after) :
    linkedPairs after = linkedPairs tables := by
  obtain ⟨_, _, remaining⟩ := Checked.bind_ok written
  cases remaining
  rfl

/-- The transaction of an account keeps the links exactly when it writes one that is there. -/
theorem accountTransaction_pairs {parse : Oauth.ParseInstant} {now : Timestamp}
    {discordId : DiscordId} {user : Osu.OsuUser} {discordName : Option String} {osuUserId : OsuUserId}
    {pages : Mode → Option Osu.OsuUser}
    (written : Oauth.accountTransaction parse now discordId user discordName osuUserId pages tables =
      .ok after) :
    linkedPairs after = linkedPairs tables ↔ (discordId, user.id) ∈ linkedPairs tables := by
  obtain ⟨row, same, account, rows⟩ := Oauth.accountTransaction_users written
  constructor
  · intro kept
    rw [← kept, mem_linkedPairs]
    exact ⟨row, (rows row).mpr (Or.inl rfl), same, account⟩
  · intro linked
    obtain ⟨old, member, holder, held⟩ := mem_linkedPairs.mp linked
    dsimp only at holder held
    ext pair
    rw [mem_linkedPairs, mem_linkedPairs]
    constructor
    · rintro ⟨other, inside, holds⟩
      obtain rfl | ⟨stays, _, _⟩ := (rows other).mp inside
      · rw [same, account, ← holder, ← held] at holds
        exact ⟨old, member, holds⟩
      · exact ⟨other, stays, holds⟩
    · rintro ⟨other, inside, holds⟩
      -- The old row of either identity is the linked one, so it is replaced by its own link.
      have apart : other = old ∨ other.discordId ≠ discordId ∧ other.osuUserId ≠ user.id := by
        by_cases holderSame : other.discordId = discordId
        · exact Or.inl (tables.osuUsers.eq_of_key inside member (holderSame.trans holder.symm))
        · by_cases accountSame : other.osuUserId = user.id
          · exact Or.inl (List.inj_on_of_nodup_map tables.osuUserIdUnique inside member
              (accountSame.trans held.symm))
          · exact Or.inr ⟨holderSame, accountSame⟩
      obtain rfl | different := apart
      · rw [holder, held, ← same, ← account] at holds
        exact ⟨row, (rows row).mpr (Or.inl rfl), holds⟩
      · exact ⟨other, (rows other).mpr (Or.inr ⟨inside, different⟩), holds⟩

end Pairs

section Operations

/-- These are the operations of a round. -/
def refreshes : WebOp → Prop
  | .utcNow => True
  | .selectDue _ => True
  | .clientCredentialsToken => True
  | .getUser _ _ _ => True
  | .refreshAccount _ _ _ _ => True
  | .enqueuePlayerSync _ => True
  | .updateRefreshed _ _ => True
  | .selectRefreshFailures _ => True
  | .updateFailed _ _ => True
  | _ => False

variable {state : AppState}

/-- A refresh performs its own operations alone. -/
theorem refreshUserFull_refreshes (discordId : DiscordId) (osuUserId : OsuUserId) :
    (Oauth.refreshUserFull state discordId osuUserId).Only refreshes := by
  refine only_bind (only_check _) fun _ => ?_
  refine only_bind (only_ask trivial) fun appToken => ?_
  refine only_bind (only_ask trivial) fun primary => ?_
  refine only_bind (only_fetchPages (fun _ _ _ => trivial) _ _ _) fun pages => ?_
  exact only_bind (only_ask trivial) fun _ => only_ask trivial

/-- The refresh of a due user performs these operations and the plan of the next one. -/
theorem refreshUser_refreshes (due : DiscordId × OsuUserId) :
    (refreshUser state due).Only refreshes := by
  refine only_bind (only_attempt (refreshUserFull_refreshes _ _)) fun refreshed => ?_
  split
  · refine only_bind (only_ask trivial) fun now => ?_
    exact only_bind (only_result trivial) fun _ => trivial
  · refine only_bind (only_result trivial) fun stored => ?_
    refine only_bind (only_ask trivial) fun now => ?_
    exact only_bind (only_result trivial) fun _ => trivial

/-- A round and its branches keep to these operations. -/
theorem pass_follows (state : AppState) :
    Follows (confined refreshes) (Spawns (confined refreshes) ()) () (pass state) := by
  have ended : @Spawns WebOp WebOp.Value AppError Unit (confined refreshes) () (.ok []) () :=
    ⟨rfl, fun branches listed => by cases listed; exact fun _ inside => absurd inside List.not_mem_nil⟩
  unfold pass
  split
  · exact ended
  · refine ⟨trivial, fun answer _ => ?_⟩
    cases answer with
    | error error => exact ended
    | ok due =>
        refine ⟨rfl, fun branches listed branch inside => ?_⟩
        cases listed
        obtain ⟨user, _, rfl⟩ := List.mem_map.mp inside
        exact follows_of_only (fun _ admitted => ⟨admitted, fun _ => rfl⟩) (refreshUser_refreshes user)

/-- An operation of a round other than its transaction keeps the links. -/
theorem perform_pairs (outside : Outside) (tables : Tables) {operation : WebOp}
    (allowed : refreshes operation)
    (other : ∀ discordId osuUserId primary pages,
      operation ≠ .refreshAccount discordId osuUserId primary pages) :
    linkedPairs (perform state outside tables operation).2 = linkedPairs tables := by
  let kept := fun after => linkedPairs after = linkedPairs tables
  cases operation with
  | refreshAccount discordId osuUserId primary pages => exact absurd rfl (other _ _ _ _)
  | enqueuePlayerSync discordId => exact of_writing kept rfl fun _ => enqueue_pairs
  | updateRefreshed discordId next =>
      exact updateOsuUsers_pairs tables Tables.scheduled_discordId Tables.scheduled_osuUserId
  | updateFailed discordId next => exact of_writing kept rfl fun _ => updateFailed_pairs
  | utcNow => rfl
  | selectDue limit => rfl
  | clientCredentialsToken => rfl
  | getUser accessToken osuUserId mode => rfl
  | selectRefreshFailures discordId => rfl
  | _ => exact allowed.elim

end Operations

section Transaction

/-- The transaction of a refresh commits: the join date is readable, the payload can be sent, the
Discord account can take the account of the payload, and every page has its account. -/
structure Commits (state : AppState) (tables : Tables) (discordId : DiscordId) (osuUserId : OsuUserId)
    (primary : Osu.OsuUser) (pages : Mode → Option Osu.OsuUser) : Prop where
  parsed : ∃ joined, state.parseInstant primary.joinDate = .ok joined
  sendable : Oauth.Sendable primary discordId none
  relinkable : Oauth.Relinkable tables discordId primary.id
  kept : Oauth.Kept tables discordId primary.id osuUserId pages

/-- A refresh transaction that commits writes a link that is there. -/
def WritesLink (state : AppState) (tables : Tables) : WebOp → Prop
  | .refreshAccount discordId osuUserId primary pages =>
      Commits state tables discordId osuUserId primary pages →
        (discordId, primary.id) ∈ linkedPairs tables
  | _ => True

variable {state : AppState} {outside : Outside} {tables : Tables}

/-- The transaction of a refresh commits under exactly these conditions. -/
theorem commits_iff (now : Timestamp) {discordId : DiscordId} {osuUserId : OsuUserId}
    {primary : Osu.OsuUser} {pages : Mode → Option Osu.OsuUser} :
    (∃ after, Oauth.accountTransaction state.parseInstant now discordId primary none osuUserId pages
        tables = .ok after) ↔ Commits state tables discordId osuUserId primary pages := by
  constructor
  · rintro ⟨after, written⟩
    cases parsed : state.parseInstant primary.joinDate with
    | error message =>
        obtain ⟨profiled, first, _⟩ := Checked.bind_ok written
        unfold Oauth.upsertUserProfile at first
        rw [parsed] at first
        cases first
    | ok joined =>
        have committed := (Oauth.accountTransaction_ok_iff parsed).mp ⟨after, written⟩
        exact ⟨⟨joined, parsed⟩, committed.1.1, committed.1.2, committed.2⟩
  · intro commits
    obtain ⟨joined, parsed⟩ := commits.parsed
    exact (Oauth.accountTransaction_ok_iff parsed).mpr
      ⟨⟨commits.sendable, commits.relinkable⟩, commits.kept⟩

/-- The transaction keeps the links exactly when it is rolled back or writes one that is there. -/
theorem refreshAccount_pairs (outside : Outside) (discordId : DiscordId) (osuUserId : OsuUserId)
    (primary : Osu.OsuUser) (pages : Mode → Option Osu.OsuUser) :
    linkedPairs (perform state outside tables
        (.refreshAccount discordId osuUserId primary pages)).2 = linkedPairs tables ↔
      WritesLink state tables (.refreshAccount discordId osuUserId primary pages) := by
  change linkedPairs (committing tables _).2 = _ ↔ (Commits state tables _ _ _ _ → _)
  rw [← commits_iff outside.now]
  cases written : Oauth.accountTransaction state.parseInstant outside.now discordId primary none
      osuUserId pages tables with
  | error error =>
      refine ⟨fun _ committed => ?_, fun _ => rfl⟩
      obtain ⟨after, impossible⟩ := committed
      cases impossible
  | ok after =>
      refine (accountTransaction_pairs written).trans ?_
      exact ⟨fun linked _ => linked, fun linked => linked ⟨after, rfl⟩⟩

/-- An operation of a round keeps the links exactly when it is refused or writes one that is there. -/
theorem answer_pairs_iff {operation : WebOp} (allowed : refreshes operation) :
    linkedPairs (answer state outside tables operation).2 = linkedPairs tables ↔
      (outside.refused operation = none → WritesLink state tables operation) := by
  unfold answer
  cases refused : outside.refused operation with
  | some error => exact ⟨fun _ impossible => (by cases impossible), fun _ => rfl⟩
  | none =>
      refine Iff.trans ?_ (forall_prop_of_true rfl).symm
      by_cases writes : ∃ discordId osuUserId primary pages,
          operation = .refreshAccount discordId osuUserId primary pages
      · obtain ⟨discordId, osuUserId, primary, pages, rfl⟩ := writes
        exact refreshAccount_pairs outside discordId osuUserId primary pages
      · have other : ∀ discordId osuUserId primary pages,
            operation ≠ .refreshAccount discordId osuUserId primary pages :=
          fun discordId osuUserId primary pages same =>
            writes ⟨discordId, osuUserId, primary, pages, same⟩
        refine ⟨fun _ => ?_, fun _ => perform_pairs outside tables allowed other⟩
        cases operation with
        | refreshAccount discordId osuUserId primary pages => exact absurd rfl (other _ _ _ _)
        | _ => trivial

end Transaction

section Run

variable {state : AppState} {system after : System}

/-- The event is a step of a callback or of an unlink. -/
def System.byMember (system : System) : Event → Bool
  | .advance index _ => (system.taskAt index).any fun task => !task.isRefresh
  | _ => false

/-- Only the steps of callbacks and unlinks may change the links. -/
def Keeps (state : AppState) (system : System) (event : Event) : Prop :=
  system.byMember event = false →
    ∀ after ∈ system.step state event, linkedPairs after.tables = linkedPairs system.tables

/-- A step of a refresh whose transaction commits writes a link that is there. -/
def WritesLinked (state : AppState) (system : System) : Event → Prop
  | .advance index outside =>
      system.byMember (.advance index outside) = false →
        (system.step state (.advance index outside)).isSome →
          ∀ operation ∈ system.waiting index, outside.refused operation = none →
            WritesLink state system.tables operation
  | _ => True

/-- Each thread has a task, and the threads of a refresh keep to its operations. -/
structure Assigned (system : System) : Prop where
  numbered : ∀ thread ∈ system.threads, thread.job < system.tasks.length
  confined : ∀ thread ∈ system.threads, system.tasks[thread.job]? = some .refresh →
    thread.Sound (Program.confined refreshes) (fun _ => ()) ()

/-- A new task has the duties of its kind. -/
theorem assigned_begin (assigned : Assigned system) (task : Task) :
    Assigned { system with
      threads := system.threads ++ Thread.settled ⟨system.tasks.length, task.program state⟩
      tasks := system.tasks ++ [task] } := by
  refine ⟨fun thread member => ?_, fun thread member refresh => ?_⟩
  · rw [List.length_append, List.length_singleton]
    obtain old | fresh := List.mem_append.mp member
    · exact Nat.lt_succ_of_lt (assigned.numbered thread old)
    · rw [Thread.job_settled fresh]
      exact Nat.lt_succ_self _
  · obtain old | fresh := List.mem_append.mp member
    · rw [List.getElem?_append_left (assigned.numbered thread old)] at refresh
      exact assigned.confined thread old refresh
    · rw [Thread.job_settled fresh, List.getElem?_concat_length] at refresh
      obtain rfl := Option.some.inj refresh
      exact sound_settled (fun _ _ _ => rfl) (pass_follows state) thread fresh

/-- An operation leaves each thread with its duties. -/
theorem assigned_advance (assigned : Assigned system) {index : Nat} {outside : Outside}
    (stepped : system.step state (.advance index outside) = some after) : Assigned after := by
  obtain ⟨⟨tables, threads⟩, advanced, rfl⟩ := Option.map_eq_some_iff.mp stepped
  obtain ⟨front, job, operation, next, back, split, found, rfl, rfl⟩ := advance_cases advanced
  have member := List.mem_of_getElem? found
  refine ⟨fun thread inside => ?_, fun thread inside refresh => ?_⟩
  · obtain old | fresh := mem_advanced inside
    · exact assigned.numbered thread (split ▸ old)
    · rw [Thread.job_settled fresh]
      exact assigned.numbered ⟨job, .call operation next⟩ member
  · obtain old | fresh := mem_advanced inside
    · exact assigned.confined thread (split ▸ old) refresh
    · rw [Thread.job_settled fresh] at refresh
      have follows := (assigned.confined _ member refresh).2 (answer state outside system.tables
        operation).1 trivial
      exact sound_settled (fun _ _ _ => rfl) follows thread fresh

/-- Each step leaves each thread with its duties. -/
theorem assigned_step (assigned : Assigned system) {event : Event}
    (stepped : system.step state event = some after) : Assigned after := by
  cases event with
  | begin task =>
      cases stepped
      exact assigned_begin assigned task
  | advance index outside => exact assigned_advance assigned stepped
  | stop job =>
      cases stepped
      exact ⟨fun thread inside => assigned.numbered thread (List.mem_filter.mp inside).1,
        fun thread inside => assigned.confined thread (List.mem_filter.mp inside).1⟩

/-- One step keeps the links exactly when it meets the condition. -/
theorem keeps_iff_writesLinked (assigned : Assigned system) (event : Event) :
    Keeps state system event ↔ WritesLinked state system event := by
  cases event with
  | begin task =>
      refine ⟨fun _ => trivial, fun _ _ after stepped => ?_⟩
      cases stepped
      rfl
  | stop job =>
      refine ⟨fun _ => trivial, fun _ _ after stepped => ?_⟩
      cases stepped
      rfl
  | advance index outside =>
      refine forall_congr' fun refreshing => ?_
      cases stepped : system.step state (.advance index outside) with
      | none =>
          refine ⟨fun _ enabled => ?_, fun _ after impossible => ?_⟩
          · cases enabled
          · cases impossible
      | some after =>
          obtain ⟨⟨tables, threads⟩, advanced, rfl⟩ := Option.map_eq_some_iff.mp stepped
          obtain ⟨front, job, operation, next, back, split, found, rfl, rfl⟩ := advance_cases advanced
          have member := List.mem_of_getElem? found
          have waiting : system.waiting index = some operation := by
            rw [System.waiting, found]
            rfl
          have refresh : system.tasks[job]? = some .refresh := by
            have numbered := assigned.numbered _ member
            rw [System.byMember, System.taskAt, found, Option.bind_some,
              List.getElem?_eq_getElem numbered, Option.any_some] at refreshing
            rw [List.getElem?_eq_getElem numbered]
            cases same : system.tasks[job] with
            | refresh => rfl
            | callback query =>
                rw [same] at refreshing
                cases refreshing
            | unlink headers =>
                rw [same] at refreshing
                cases refreshing
          have allowed : refreshes operation := (assigned.confined _ member refresh).1
          rw [waiting]
          simp only [Option.mem_def, Option.some.injEq, forall_eq', Option.isSome_some, forall_const]
          exact answer_pairs_iff allowed

/-- In every run of the worker beside the members, no step of a refresh changes the links exactly when
each transaction that commits writes a link that is there. -/
theorem refresh_keeps_iff (state : AppState) (tables : Tables) (events : List Event) :
    EventRun.Guarded (System.step state) (Keeps state) (System.start tables) events ↔
      EventRun.Guarded (System.step state) (WritesLinked state) (System.start tables) events := by
  have start : Assigned (System.start tables) :=
    ⟨fun _ member => absurd member List.not_mem_nil, fun _ member => absurd member List.not_mem_nil⟩
  have met : EventRun.Guarded (System.step state) (fun system _ => Assigned system)
      (System.start tables) events :=
    EventRun.guarded_of_stable Assigned (fun _ _ _ assigned stepped => assigned_step assigned stepped)
      (fun _ _ assigned => assigned) start events
  exact EventRun.guarded_congr met fun _ event assigned => keeps_iff_writesLinked assigned event

instance (state : AppState) (system : System) (event : Event) : Decidable (Keeps state system event) :=
  inferInstanceAs (Decidable (system.byMember event = false →
    ∀ after ∈ system.step state event, linkedPairs after.tables = linkedPairs system.tables))

/-- The osu! API answers with the payload of the account. -/
def reachable : Outside :=
  { Sample.alone 0 with
    clientCredentialsToken := .ok "application token"
    getUser := fun _ osuUserId _ => .ok (Sample.payload osuUserId) }

/-- The player "1" unlinks after the worker has fetched the profile, and then the worker fetches the pages. -/
def unlinkedMidway : List Event :=
  .begin .refresh :: List.replicate 3 (.advance 0 reachable) ++
    .begin (.unlink Sample.signedIn) :: List.replicate 3 (.advance 1 reachable) ++
    List.replicate 4 (.advance 0 reachable)

def linkedTables : Tables :=
  Sample.linkedPlayer

/-- The transaction of the refresh links the player again. -/
theorem refresh_revives :
    ((EventRun.run (System.step Sample.appState) (System.start linkedTables) unlinkedMidway).map
        fun last => linkedPairs last.tables) = some ∅ ∧
      ((EventRun.run (System.step Sample.appState) (System.start linkedTables)
          (unlinkedMidway ++ [.advance 0 reachable])).map fun last => linkedPairs last.tables) =
        some {("1", 7)} ∧
      ¬EventRun.Guarded (System.step Sample.appState) (Keeps Sample.appState)
        (System.start linkedTables) (unlinkedMidway ++ [.advance 0 reachable]) := by
  refine ⟨?_, ?_, ?_⟩
  · decide +kernel
  · decide +kernel
  · decide +kernel

end Run

end OsuPlayerRole.Refresh
