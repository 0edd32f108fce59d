/-
This file shows that one round of the reconcile worker, and a worker that then polls the queue, bring
RoleLogic to the stored rules.
-/
import OsuPlayerRole.Construction.Tasks.Reconcile
import OsuPlayerRole.Proof.Jobs.Drain
import OsuPlayerRole.Proof.Sync.Confluence
import OsuPlayerRole.Proof.System.StoredRows

namespace OsuPlayerRole.Reconcile

open Jobs JobWorker KeyedTable RuleSql Resumption Program EventRun Shutdown Sync

/-- One whole round, with no other party between two statements. -/
def passed (now : Timestamp) (tables : Tables) : Tables := (Program.run (perform now) tables pass).2

/-- The tables after the collections of the round. -/
def collected (now : Timestamp) (tables : Tables) : Tables :=
  Jobs.gcCompleted now (Jobs.gcDead now (gcOauthStates now tables))

/-- The dispatches of the jobs that can be read. -/
def dispatches (texts : ErrorTexts) (jobs : List ClaimedJob) : List Dispatch :=
  jobs.filterMap fun job => (decode texts job).toOption

/-- The row that waits for the synchronization of a link. -/
structure Queued (now : Timestamp) (link : Link) (row : Job) : Prop where
  kind : row.kind = "config_sync"
  payload : row.payload.value = .object [("guild_id", .string link.1), ("role_id", .string link.2)]
  pending : row.status = .pending
  next : row.nextRunAt = now + 5 * second
  fresh : row.attempts = .zero

/-- JSONB can hold the names of the link. -/
def Named (link : Link) : Prop :=
  (Json.Value.string link.1).storable = true ∧ (Json.Value.string link.2).storable = true

/-- Neither the links nor the facts nor the mirror change. -/
structure Aside (before after : Tables) : Prop where
  roleLinks : after.roleLinks = before.roleLinks
  osuUsers : after.osuUsers = before.osuUsers
  osuStats : after.osuStats = before.osuStats
  assignments : after.roleAssignments = before.roleAssignments

section Pass

variable {now : Timestamp} {tables after : Tables} {link : Link}

/-- What two steps leave aside, both together leave aside. -/
theorem Aside.trans {last : Tables} (first : Aside tables after) (second : Aside after last) :
    Aside tables last where
  roleLinks := second.roleLinks.trans first.roleLinks
  osuUsers := second.osuUsers.trans first.osuUsers
  osuStats := second.osuStats.trans first.osuStats
  assignments := second.assignments.trans first.assignments

/-- The payload of a named link can be stored. -/
theorem payload_storable (named : Named link) :
    (Json.Value.object [("guild_id", .string link.1), ("role_id", .string link.2)]).storable = true := by
  have guild : ("guild_id".toList.contains '\x00') = false := by decide
  have role : ("role_id".toList.contains '\x00') = false := by decide
  simp only [Json.Value.storable, Json.Value.storableFields, guild, role]
  exact Bool.and_eq_true_iff.mpr ⟨named.1, Bool.and_eq_true_iff.mpr ⟨named.2, rfl⟩⟩

/-- An enqueued link waits in a row of its own. -/
theorem enqueue_queued (now : Timestamp) (tables : Tables) (named : Named link) :
    ∃ row after, tables.enqueueConfigSync now link = .ok after ∧ Queued now link row ∧
      after.jobs.rows = tables.jobs.rows ++ [row] ∧ Aside tables after := by
  have accepted : jsonb (.object [("guild_id", .string link.1), ("role_id", .string link.2)]) =
      .ok ⟨_, payload_storable named⟩ := dif_pos (payload_storable named)
  unfold Tables.enqueueConfigSync Tables.enqueue
  rw [accepted]
  exact ⟨_, _, rfl, ⟨rfl, rfl, rfl, rfl, rfl⟩, rfl, ⟨rfl, rfl, rfl, rfl⟩⟩

/-- Each link of the round waits in a row of its own beside the older jobs. -/
theorem enqueueAll_queued {links : List Link} (named : ∀ link ∈ links, Named link) (tables : Tables) :
    ∃ rows, List.Forall₂ (Queued now) links rows ∧
      (Program.run (perform now) tables (enqueueAll links)).2.jobs.rows = tables.jobs.rows ++ rows ∧
      Aside tables (Program.run (perform now) tables (enqueueAll links)).2 := by
  induction links generalizing tables with
  | nil =>
      exact ⟨[], .nil, (List.append_nil _).symm, ⟨rfl, rfl, rfl, rfl⟩⟩
  | cons link rest ih =>
      rw [List.forall_mem_cons] at named
      obtain ⟨row, after, written, queued, appended, aside⟩ := enqueue_queued now tables named.1
      have ran : Program.run (perform now) tables (enqueueAll (link :: rest)) =
          Program.run (perform now) after (enqueueAll rest) := by
        change Program.run (perform now) (perform now tables (.enqueueConfigSync link)).2 _ = _
        have performed : (perform now tables (.enqueueConfigSync link)).2 = after := by
          change (Web.writing tables (tables.enqueueConfigSync now link)).2 = after
          rw [written]
          rfl
        rw [performed]
        rfl
      obtain ⟨rows, each, all, kept⟩ := ih named.2 after
      rw [ran]
      refine ⟨row :: rows, .cons queued each, ?_, aside.trans kept⟩
      rw [all, appended, List.append_assoc, List.cons_append, List.nil_append]

/-- The collections remove old jobs and states alone. -/
theorem collected_aside (now : Timestamp) (tables : Tables) : Aside tables (collected now tables) :=
  ⟨rfl, rfl, rfl, rfl⟩

/-- The collections leave some of the jobs. -/
theorem mem_collected {row : Job} (member : row ∈ (collected now tables).jobs.rows) :
    row ∈ tables.jobs.rows :=
  (Table.mem_delete.mp (Table.mem_delete.mp member).1).1

end Pass

section Due

variable {now later : Timestamp} {tables after : Tables} {worker : Worker} {link : Link} {row : Job}

/-- A waiting row of the round is not reaped. -/
theorem Queued.unstuck (queued : Queued now link row) : stuck later stuckLockSecs row = false := by
  have waits : (row.status = .inProgress) = False := by
    rw [queued.pending]
    exact eq_false (by intro impossible; cases impossible)
  unfold stuck
  simp only [waits, decide_false, Bool.false_and]

/-- A waiting row of the round is ready when its delay is over. -/
theorem Queued.ready (queued : Queued now link row) (waited : now + 5 * second ≤ later) :
    ready later [] row = true := by
  have due : row.nextRunAt ≤ later := queued.next.trans_le waited
  simp only [Jobs.ready, queued.pending, due, decide_true, Bool.true_and, List.contains_nil, Bool.not_false]

/-- A waiting row of the round is the job of its link. -/
theorem Queued.decoded (queued : Queued now link row) (texts : ErrorTexts) (workerId : String) :
    decode texts (taken later workerId row) = .ok (.configSync link) := by
  have kind : (taken later workerId row).kind = "config_sync" := queued.kind
  have payload : (taken later workerId row).payload.value =
      .object [("guild_id", .string link.1), ("role_id", .string link.2)] := queued.payload
  have other : ¬(taken later workerId row).kind = "player_sync" := by rw [kind]; decide
  have guild : textOf (taken later workerId row).payload.value "guild_id" = some link.1 := by
    rw [payload]
    rfl
  have role : textOf (taken later workerId row).payload.value "role_id" = some link.2 := by
    rw [payload]
    rfl
  rw [decode, if_neg other, if_pos kind, guild]
  dsimp only
  rw [role]

/-- The row of a job after the reaping. -/
def sweptRow (later : Timestamp) (worker : Worker) (row : Job) : Job :=
  if later - worker.lastReap ≥ reapEvery then changeWhere (stuck later stuckLockSecs) (reapedRow later) row
  else row

/-- The reaping keeps the number of attempts. -/
theorem sweptRow_attempts (later : Timestamp) (worker : Worker) (row : Job) :
    (sweptRow later worker row).attempts = row.attempts := by
  unfold sweptRow changeWhere
  split
  · split <;> rfl
  · rfl

/-- The reaping passes over a waiting row of the round. -/
theorem Queued.unswept (queued : Queued now link row) : sweptRow later worker row = row := by
  unfold sweptRow
  split
  · exact if_neg (by rw [queued.unstuck]; exact Bool.false_ne_true)
  · rfl

/-- The reaping goes over each row in its place. -/
theorem swept_rows (later : Timestamp) (worker : Worker) (tables : Tables) :
    (swept later worker tables).jobs.rows = tables.jobs.rows.map (sweptRow later worker) := by
  unfold swept sweptRow
  split
  · rfl
  · exact (List.map_id _).symm

/-- A waiting row of the round is due when its delay is over. -/
theorem Queued.due (queued : Queued now link row) (waited : now + 5 * second ≤ later)
    (stored : row ∈ tables.jobs.rows) : row ∈ due later (swept later worker tables) := by
  rw [mem_due, swept_rows]
  exact ⟨List.mem_map.mpr ⟨row, stored, queued.unswept⟩, queued.ready waited⟩

end Due

section Settled

variable {engines : Engines} {row : RoleLink} {base world last : World}

/-- A job of either kind keeps the mirror of a stored link level. -/
theorem level_completes {dispatch : Dispatch} (stored : row ∈ world.tables.roleLinks.rows)
    (level : world.tables.roleAssignments row.link = world.remote row.link)
    (completes : Completes engines dispatch world last) :
    ListsChange world last ∧ last.tables.roleAssignments row.link = last.remote row.link := by
  cases dispatch with
  | playerSync discordId =>
      obtain ⟨change, ⟨remote, assigned⟩, _⟩ := player_completes stored level completes
      exact ⟨change, assigned.trans remote.symm⟩
  | configSync link =>
      obtain ⟨change, replaced⟩ := serves_syncForRoleLink (link_completes completes)
      refine ⟨change.lists, ?_⟩
      by_cases same : row.link = link
      · subst same
        obtain ⟨ids, _, remote, assigned⟩ := replaced row (Table.find_of_mem stored) level
        exact assigned.trans remote.symm
      · rw [change.assignments _ same, change.remote _ same]
        exact level

/-- RoleLogic and the mirror show the members that the rule of the link selects, up to the limit. -/
def Settled (engines : Engines) (base : World) (row : RoleLink) (world : World) : Prop :=
  ∃ all, uncapped engines base (base.membersOf row.guildId) (RuleTree.ofColumn row.ruleTree.value) = .ok all ∧
    world.remote row.link = (all.take (base.userLimit row.link)).toFinset ∧
    world.tables.roleAssignments row.link = (all.take (base.userLimit row.link)).toFinset

/-- The verdict on a player is the one that the list of the link shows. -/
def Undisputed (engines : Engines) (base : World) (row : RoleLink) (discordId : DiscordId) : Prop :=
  row.guildId ∈ base.guildsOf discordId → ∀ all,
    uncapped engines base (base.membersOf row.guildId) (RuleTree.ofColumn row.ruleTree.value) = .ok all →
      (meets engines discordId base row = true ↔ discordId ∈ all.take (base.userLimit row.link))

/-- Nobody is disputed where the facts of all members can be read and the list fits the limit. -/
theorem undisputed_of_comparable {tree : RuleTree} (agrees : RegexAgrees engines)
    (start : Comparable engines row tree base)
    (legible : ∀ discordId ∈ base.membersOf row.guildId, Legible engines discordId base row)
    (discordId : DiscordId) : Undisputed engines base row discordId := by
  intro reported all listed
  have agree := members_agree agrees start legible listed
  have qualifying := qualifying_of_agree start listed agree
  rw [List.take_of_length_le qualifying.within]
  exact agree discordId ((start.views discordId).mpr reported)

/-- The job of a link settles it. -/
theorem settled_by_link (lists : ListsChange base world) (stored : row ∈ base.tables.roleLinks.rows)
    (level : world.tables.roleAssignments row.link = world.remote row.link)
    (completes : Completes engines (.configSync row.link) world last) : Settled engines base row last := by
  obtain ⟨_, replaced⟩ := serves_syncForRoleLink (link_completes completes)
  have present : row ∈ world.tables.roleLinks.rows := lists.roleLinks ▸ stored
  obtain ⟨ids, listed, remote, assigned⟩ := replaced row (Table.find_of_mem present) level
  rw [uncapped_lists lists, lists.membersOf] at listed
  rw [lists.userLimit] at remote assigned
  exact ⟨ids, listed, remote, assigned⟩

/-- A further job keeps a settled link. The job of a player must not dispute the list. -/
theorem settled_further {dispatch : Dispatch} (lists : ListsChange base world)
    (stored : row ∈ base.tables.roleLinks.rows)
    (undisputed : ∀ discordId, dispatch = .playerSync discordId → Undisputed engines base row discordId)
    (settled : Settled engines base row world) (completes : Completes engines dispatch world last) :
    Settled engines base row last := by
  obtain ⟨all, listed, remote, assigned⟩ := settled
  have present : row ∈ world.tables.roleLinks.rows := lists.roleLinks ▸ stored
  have level := assigned.trans remote.symm
  cases dispatch with
  | configSync link =>
      by_cases same : row.link = link
      · subst same
        exact settled_by_link lists stored level completes
      · obtain ⟨kept, _⟩ := serves_syncForRoleLink (link_completes completes)
        exact ⟨all, listed, (kept.remote _ same).trans remote, (kept.assignments _ same).trans assigned⟩
  | playerSync discordId =>
      obtain ⟨_, ⟨moved, written⟩, _⟩ := player_completes present level completes
      have still : outcome engines discordId world row = world.remote row.link := by
        unfold outcome
        split
        · next reported =>
            rw [lists.guildsOf, List.contains_iff_mem] at reported
            rw [adjust_eq_self, lists.meets, remote, List.mem_toFinset]
            exact (undisputed discordId rfl reported all listed).symm
        · rfl
      rw [still] at moved written
      exact ⟨all, listed, moved.trans remote, written.trans remote⟩

/-- A list of jobs settles each link that has its job in the list, in any order. -/
theorem jobs_settle {jobs : List Dispatch} (lists : ListsChange base world)
    (stored : row ∈ base.tables.roleLinks.rows)
    (level : world.tables.roleAssignments row.link = world.remote row.link)
    (undisputed : ∀ discordId, .playerSync discordId ∈ jobs → Undisputed engines base row discordId)
    (completed : Completed engines jobs world last)
    (reached : .configSync row.link ∈ jobs ∨ Settled engines base row world) :
    Settled engines base row last := by
  induction jobs generalizing world with
  | nil =>
      obtain rfl : last = world := completed
      exact reached.resolve_left List.not_mem_nil
  | cons dispatch rest ih =>
      obtain ⟨after, completes, remaining⟩ := completed
      obtain ⟨change, still⟩ := level_completes (lists.roleLinks ▸ stored) level completes
      refine ih (lists.trans change) still
        (fun discordId member => undisputed discordId (List.mem_cons_of_mem _ member)) remaining ?_
      obtain listed | settled := reached
      · obtain rfl | later := List.mem_cons.mp listed
        · exact .inr (settled_by_link lists stored level completes)
        · exact .inl later
      · refine .inr (settled_further lists stored (fun discordId same => ?_) settled completes)
        exact undisputed discordId (same ▸ List.mem_cons_self)

end Settled

section Round

variable {texts : ErrorTexts} {now later : Timestamp} {workerId : String}

/-- A held job that can be read is among the dispatches. -/
theorem mem_dispatches {jobs : List ClaimedJob} {dispatch : Dispatch} :
    dispatch ∈ dispatches texts jobs ↔ ∃ job ∈ jobs, decode texts job = .ok dispatch := by
  rw [dispatches, List.mem_filterMap]
  refine exists_congr fun job => and_congr_right fun _ => ?_
  cases decode texts job with
  | ok found =>
      constructor
      · intro same
        obtain rfl := Option.some.inj same
        rfl
      · intro same
        obtain rfl := Except.ok.inj same
        rfl
  | error error =>
      constructor
      · intro impossible
        cases impossible
      · intro impossible
        cases impossible

/-- The round leaves a waiting row for each stored link. -/
theorem passed_queued (now : Timestamp) {tables : Tables} (named : ∀ row ∈ tables.roleLinks.rows, Named row.link) :
    ∃ rows, List.Forall₂ (Queued now) (tables.roleLinks.rows.map RoleLink.link) rows ∧
      (passed now tables).jobs.rows = (collected now tables).jobs.rows ++ rows ∧
      Aside tables (passed now tables) := by
  have each : ∀ link ∈ (collected now tables).roleLinks.rows.map RoleLink.link, Named link := by
    intro link member
    obtain ⟨row, stored, rfl⟩ := List.mem_map.mp member
    exact named row stored
  obtain ⟨rows, queued, appended, aside⟩ := enqueueAll_queued each (collected now tables)
  exact ⟨rows, queued, appended, (collected_aside now tables).trans aside⟩

/-- After a round, a worker that works off the queue dispatches the job of every link. When the dispatched
jobs complete, in whatever order the batches came back, RoleLogic shows for each link what its rule
selects. -/
theorem round_settles (engines : Engines) (texts : ErrorTexts) (world : World) (jitterMs : Nat → Nat)
    (order : RowOrder) {batchSize : Nat} {now later : Timestamp} {worker : Worker}
    (positive : 0 < batchSize) (place : worker.phase = .top) (untold : worker.guard = subscribe)
    (identified : send [.text worker.id] = .ok ()) (waited : now + 5 * second ≤ later)
    (named : ∀ row ∈ world.tables.roleLinks.rows, Named row.link)
    (fits : ∀ row ∈ world.tables.jobs.rows, row.attempts.val + 1 < 2 ^ 31)
    (level : ∀ row ∈ world.tables.roleLinks.rows,
      world.tables.roleAssignments row.link = world.remote row.link)
    (undisputed : ∀ job ∈ due later (swept later worker (passed now world.tables)), ∀ discordId,
      decode texts (taken later worker.id job) = .ok (.playerSync discordId) →
        ∀ row ∈ world.tables.roleLinks.rows, Undisputed engines world row discordId) :
    ∃ drained, Reaches (Draining.step texts batchSize later ⟨fun _ => .ok (), jitterMs, order⟩)
        ⟨worker, passed now world.tables, []⟩ drained ∧
      drained.worker.phase = .emptyPause ∧ due later drained.tables = [] ∧
      (∀ row ∈ world.tables.roleLinks.rows,
        .configSync row.link ∈ dispatches texts drained.dispatched) ∧
      ∀ last, Completed engines (dispatches texts drained.dispatched)
          { world with tables := passed now world.tables } last →
        ∀ row ∈ world.tables.roleLinks.rows, Settled engines world row last := by
  obtain ⟨rows, queued, appended, aside⟩ := passed_queued now named
  have few : ∀ row ∈ due later (swept later worker (passed now world.tables)),
      row.attempts.val + 1 < 2 ^ 31 := by
    intro row member
    have inside := (mem_due.mp member).1
    rw [swept_rows, appended, List.mem_map] at inside
    obtain ⟨old, stored, rfl⟩ := inside
    rw [sweptRow_attempts]
    obtain kept | new := List.mem_append.mp stored
    · exact fits old (mem_collected kept)
    · obtain ⟨link, _, waits⟩ := Checked.exists_left queued new
      rw [waits.fresh]
      decide
  obtain ⟨moved, after, sequence, ran, stands, batches, written⟩ :=
    drain_runs texts ⟨fun _ => .ok (), jitterMs, order⟩ positive place untold identified few
  have whole := batches.perm positive
  have listed : ∀ row ∈ world.tables.roleLinks.rows,
      .configSync row.link ∈ dispatches texts (sequence.map (taken later worker.id)) := by
    intro row stored
    obtain ⟨job, new, waits⟩ := Checked.exists_right queued (List.mem_map_of_mem (f := RoleLink.link) stored)
    have inside : job ∈ (passed now world.tables).jobs.rows :=
      appended ▸ List.mem_append_right _ new
    exact mem_dispatches.mpr ⟨_, List.mem_map_of_mem (whole.mem_iff.mpr (waits.due waited inside)),
      waits.decoded texts worker.id⟩
  refine ⟨_, ran, stands.place, due_workedOff written, listed, fun last completed row stored => ?_⟩
  have started : ListsChange world { world with tables := passed now world.tables } :=
    ⟨aside.roleLinks, aside.osuUsers, aside.osuStats, rfl, rfl, rfl, rfl⟩
  have opening : (passed now world.tables).roleAssignments row.link = world.remote row.link := by
    rw [aside.assignments]
    exact level row stored
  refine jobs_settle started stored opening (fun discordId member => ?_) completed (.inl (listed row stored))
  obtain ⟨held, dispatched, read⟩ := mem_dispatches.mp member
  obtain ⟨job, worked, rfl⟩ := List.mem_map.mp dispatched
  exact undisputed job (whole.mem_iff.mp worked) discordId read row stored

end Round

section OneRound

/-- A player job of the linked member is due beside the round. -/
def crowded : World :=
  { twoMembers with
    tables := ((twoMembers.tables.enqueuePlayerSync 0 "1").toOption).getD twoMembers.tables }

/-- The sample world can be compared. -/
theorem crowded_comparable :
    Comparable Sample.letterEngines (Sample.roleLink "token" Sample.grantAny) (grantTree .osu) crowded where
  stored := List.mem_singleton_self _
  rule := rfl
  offered := grantTree_offered .osu
  past := twoMembers_comparable.past
  views := twoMembers_comparable.views
  level := rfl
  inside _ impossible := absurd impossible (Finset.notMem_empty _)
  fits := by decide +kernel

/-- The facts of both sample members can be read. -/
theorem crowded_legible (discordId : DiscordId) (member : discordId ∈ crowded.membersOf "guild") :
    Legible Sample.letterEngines discordId crowded (Sample.roleLink "token" Sample.grantAny) := by
  have either : discordId = "1" ∨ discordId = "2" := by simpa [crowded, twoMembers] using member
  obtain rfl | rfl := either
  · rfl
  · rfl

/-- One of two members is linked, and the round settles the link that grants the role to every player. The
job of the member comes back behind the job of the link. -/
theorem two_members_settled :
    ∃ drained, Reaches (Draining.step Sample.texts batchSize (60 * second)
        ⟨fun _ => .ok (), fun _ => 0, ⟨List.reverse, List.reverse_perm⟩⟩)
        ⟨newWorker, passed 0 crowded.tables, []⟩ drained ∧
      drained.worker.phase = .emptyPause ∧ due (60 * second) drained.tables = [] ∧
      (∀ row ∈ crowded.tables.roleLinks.rows,
        .configSync row.link ∈ dispatches Sample.texts drained.dispatched) ∧
      ∀ last, Completed Sample.letterEngines (dispatches Sample.texts drained.dispatched)
          { crowded with tables := passed 0 crowded.tables } last →
        ∀ row ∈ crowded.tables.roleLinks.rows, Settled Sample.letterEngines crowded row last := by
  have only : ∀ row ∈ crowded.tables.roleLinks.rows, row = Sample.roleLink "token" Sample.grantAny :=
    fun row member => List.mem_singleton.mp member
  refine round_settles Sample.letterEngines Sample.texts crowded (fun _ => 0)
    ⟨List.reverse, List.reverse_perm⟩ (by decide) rfl rfl (by decide +kernel) (by decide) ?_ ?_ ?_ ?_
  · intro row member
    rw [only row member]
    exact ⟨by decide +kernel, by decide +kernel⟩
  · intro row member
    obtain rfl := List.mem_singleton.mp member
    decide
  · intro row _
    rfl
  · intro _ _ discordId _ row member
    rw [only row member]
    exact undisputed_of_comparable letterEngines_agree crowded_comparable crowded_legible discordId

end OneRound

end OsuPlayerRole.Reconcile
