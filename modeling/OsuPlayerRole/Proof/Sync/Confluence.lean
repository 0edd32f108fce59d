/-
This file shows that the jobs of all members and the job of their link lead to the same lists.
-/
import OsuPlayerRole.Proof.Rule.RuleDisagreement
import OsuPlayerRole.Proof.Sync.CleanLink
import OsuPlayerRole.Proof.Sync.CleanPlayer

namespace OsuPlayerRole.Sync

open Resumption Program RuleSql RuleValidator

/-- The link has an offered rule, RoleLogic and the mirror hold the same members, and the members that
qualify fit the limit. -/
structure Comparable (engines : Engines) (row : RoleLink) (tree : RuleTree) (world : World) : Prop where
  stored : row ∈ world.tables.roleLinks.rows
  rule : row.ruleTree.value = tree.toValue
  offered : Offered engines tree
  past : ∀ user ∈ world.tables.osuUsers.rows, user.discordId ∈ world.membersOf row.guildId →
    Past world.now user
  /-- The gateway reports a guild for a user exactly if it reports the user for the guild. -/
  views : ∀ discordId, discordId ∈ world.membersOf row.guildId ↔
    row.guildId ∈ world.guildsOf discordId
  level : world.tables.roleAssignments row.link = world.remote row.link
  inside : ∀ discordId ∈ world.remote row.link, discordId ∈ world.membersOf row.guildId
  fits : ((world.membersOf row.guildId).toFinset.filter fun discordId =>
    meets engines discordId world row = true).card ≤ world.userLimit row.link

/-- The list of all members that qualify, as the query finds it. -/
structure Qualifying (engines : Engines) (row : RoleLink) (base : World) (all : List DiscordId) : Prop where
  listed : uncapped engines base (base.membersOf row.guildId) (RuleTree.ofColumn row.ruleTree.value) =
    .ok all
  verdicts : ∀ discordId ∈ base.membersOf row.guildId,
    (meets engines discordId base row = true ↔ discordId ∈ all)
  within : all.length ≤ base.userLimit row.link

/-- RoleLogic and the mirror show the list, and the facts have not changed. -/
structure Shows (row : RoleLink) (base : World) (all : List DiscordId) (world : World) : Prop where
  lists : ListsChange base world
  remote : world.remote row.link = all.toFinset
  assignments : world.tables.roleAssignments row.link = all.toFinset

section Members

variable {engines : Engines} {row : RoleLink} {tree : RuleTree} {base world after : World}

/-- The jobs of the players decide each of them, and they leave everybody else. -/
theorem players_complete {order : List DiscordId} (stored : row ∈ base.tables.roleLinks.rows)
    (inside : ∀ discordId ∈ order, row.guildId ∈ base.guildsOf discordId)
    (lists : ListsChange base world)
    (level : world.tables.roleAssignments row.link = world.remote row.link)
    (completed : Completed engines (order.map .playerSync) world after) :
    ListsChange base after ∧ after.tables.roleAssignments row.link = after.remote row.link ∧
      (∀ discordId, discordId ∈ after.remote row.link ↔
        if discordId ∈ order then meets engines discordId base row = true
        else discordId ∈ world.remote row.link) ∧
      ∀ discordId ∈ order, Legible engines discordId base row := by
  induction order generalizing world with
  | nil =>
      obtain rfl : after = world := completed
      exact ⟨lists, level, fun _ => Iff.rfl, fun _ impossible => absurd impossible List.not_mem_nil⟩
  | cons first rest ih =>
      obtain ⟨middle, completes, others⟩ := completed
      rw [List.forall_mem_cons] at inside
      have present : row ∈ world.tables.roleLinks.rows := lists.roleLinks ▸ stored
      have reported : (world.guildsOf first).contains row.guildId = true := by
        rw [lists.guildsOf]
        exact List.contains_iff_mem.mpr inside.1
      obtain ⟨change, ⟨remote, assigned⟩, legible⟩ := player_completes present level completes
      have goal : middle.remote row.link =
          adjust first (meets engines first base row) (world.remote row.link) := by
        rw [remote, outcome, if_pos reported, lists.meets]
      obtain ⟨kept, equal, decided, readable⟩ :=
        ih inside.2 (lists.trans change) (assigned.trans remote.symm) others
      refine ⟨kept, equal, fun discordId => (decided discordId).trans ?_, List.forall_mem_cons.mpr ⟨?_, readable⟩⟩
      · by_cases later : discordId ∈ rest
        · rw [if_pos later, if_pos (List.mem_cons_of_mem first later)]
        · rw [if_neg later, goal]
          by_cases same : discordId = first
          · subst same
            rw [if_pos List.mem_cons_self]
            exact mem_adjust
          · rw [if_neg fun member => (List.mem_cons.mp member).elim same later]
            exact mem_adjust_of_ne same
      · have read := legible ((mem_linksOf present).mpr reported)
        exact read.of_facts lists.osuUsers.symm lists.osuStats.symm

/-- A query that answered had members that could be sent. -/
theorem sent_of_uncapped {members ids : List DiscordId}
    (configured : (!tree.grantOnAnyPlayer && tree.groups.isEmpty) = false)
    (present : members.isEmpty = false) (listed : uncapped engines world members tree = .ok ids) :
    send [.textArray members] = .ok () := by
  unfold uncapped at listed
  rw [configured, if_neg Bool.false_ne_true, present, if_neg Bool.false_ne_true] at listed
  split at listed
  · obtain ⟨_, sent, _⟩ := Checked.bind_ok listed
    exact sent
  · obtain ⟨_, sent, _⟩ := Checked.bind_ok listed
    have clean := send_ok.mp sent
    refine send_ok.mpr fun bind member => clean bind ?_
    rw [List.mem_singleton.mp member]
    exact List.mem_append_left _ (List.mem_cons_of_mem _ List.mem_cons_self)

/-- The verdicts that the jobs of the members have read are the answer of the query. -/
theorem members_agree (agrees : RegexAgrees engines) (start : Comparable engines row tree world)
    (legible : ∀ discordId ∈ world.membersOf row.guildId, Legible engines discordId world row)
    {all : List DiscordId}
    (listed : uncapped engines world (world.membersOf row.guildId)
      (RuleTree.ofColumn row.ruleTree.value) = .ok all) :
    ∀ discordId ∈ world.membersOf row.guildId,
      (meets engines discordId world row = true ↔ discordId ∈ all) := by
  intro discordId member
  have present : (world.membersOf row.guildId).isEmpty = false := by
    rw [List.isEmpty_eq_false_iff_exists_mem]
    exact ⟨_, member⟩
  have read := start.offered.read start.rule
  have decided : Alike engines world (world.membersOf row.guildId) row.ruleTree discordId := by
    rw [read] at listed
    refine alike_of_served agrees start.past start.offered start.rule member fun _ => ⟨?_, ?_⟩
    · intro granted
      exact sent_of_uncapped (by rw [granted]; rfl) present listed
    · intro plain configured user stored chosen
      have some : tree.groups.isEmpty = false := by simpa using configured
      refine ⟨sent_of_uncapped (by rw [some, Bool.and_false]) present listed, ?_⟩
      have selected := legible user.discordId chosen
      rw [Legible, verdict_eq row.ruleTree read, plain, some, if_neg Bool.false_ne_true,
        if_neg Bool.false_ne_true] at selected
      obtain ⟨found, answered, _⟩ := Checked.bind_ok selected
      exact readable_of_selectFacts stored (Checked.mapError_ok.mp answered)
  rw [Alike, legible discordId member, Except.ok.injEq] at decided
  rw [decided]
  constructor
  · rintro ⟨ids, same, among⟩
    obtain rfl := Except.ok.inj (same.symm.trans listed)
    exact among
  · intro among
    exact ⟨all, listed, among⟩

/-- Only members qualify. -/
theorem member_of_listed {members all : List DiscordId}
    (listed : uncapped engines world members tree = .ok all) {discordId : DiscordId}
    (among : discordId ∈ all) : discordId ∈ members := by
  obtain ⟨_, _, _, member⟩ := linked_of_uncapped listed among
  exact member

/-- Where evaluator and query agree on each member, the query's list is the qualifying one. -/
theorem qualifying_of_agree (start : Comparable engines row tree world) {all : List DiscordId}
    (listed : uncapped engines world (world.membersOf row.guildId)
      (RuleTree.ofColumn row.ruleTree.value) = .ok all)
    (agree : ∀ discordId ∈ world.membersOf row.guildId,
      (meets engines discordId world row = true ↔ discordId ∈ all)) :
    Qualifying engines row world all := by
  refine ⟨listed, agree, ?_⟩
  have distinct : all.Nodup := by
    rw [← uncapped_ordered listed]
    exact OrderedSet.ordered_nodup _
  have same : all.toFinset = (world.membersOf row.guildId).toFinset.filter fun discordId =>
      meets engines discordId world row = true := by
    ext discordId
    rw [List.mem_toFinset, Finset.mem_filter, List.mem_toFinset]
    constructor
    · intro among
      have member := member_of_listed listed among
      exact ⟨member, (agree discordId member).mpr among⟩
    · rintro ⟨member, qualified⟩
      exact (agree discordId member).mp qualified
  calc all.length = all.toFinset.card := (List.toFinset_card_of_nodup distinct).symm
    _ ≤ world.userLimit row.link := same ▸ start.fits

end Members

section Further

variable {engines : Engines} {row : RoleLink} {base world after : World} {all : List DiscordId}

theorem uncapped_lists (lists : ListsChange base world) (members : List DiscordId) (tree : RuleTree) :
    uncapped engines world members tree = uncapped engines base members tree := by
  unfold uncapped linkedIds qualifyingIds membersOf Tables.statsOf
  rw [lists.osuUsers, lists.osuStats, lists.now]

/-- A list that shows the qualifying members is the outcome of every player job. -/
theorem outcome_shown {discordId : DiscordId} (qualifying : Qualifying engines row base all)
    (views : ∀ other, other ∈ base.membersOf row.guildId ↔ row.guildId ∈ base.guildsOf other)
    (shows : Shows row base all world) :
    outcome engines discordId world row = world.remote row.link := by
  unfold outcome
  split
  · next reported =>
      rw [shows.lists.guildsOf, List.contains_iff_mem, ← views] at reported
      rw [adjust_eq_self, shows.lists.meets, shows.remote, List.mem_toFinset]
      exact (qualifying.verdicts discordId reported).symm
  · rfl

variable (stored : row ∈ base.tables.roleLinks.rows) (qualifying : Qualifying engines row base all)
  (views : ∀ other, other ∈ base.membersOf row.guildId ↔ row.guildId ∈ base.guildsOf other)

include stored qualifying views

/-- A further job of either kind keeps the list. -/
theorem shows_completes {dispatch : Dispatch} (shows : Shows row base all world)
    (completes : Completes engines dispatch world after) : Shows row base all after := by
  have present : row ∈ world.tables.roleLinks.rows := shows.lists.roleLinks ▸ stored
  have level := shows.assignments.trans shows.remote.symm
  cases dispatch with
  | playerSync discordId =>
      obtain ⟨change, ⟨remote, assigned⟩, _⟩ := player_completes present level completes
      rw [outcome_shown qualifying views shows, shows.remote] at remote assigned
      exact ⟨shows.lists.trans change, remote, assigned⟩
  | configSync link =>
      obtain ⟨change, replaced⟩ := serves_syncForRoleLink (link_completes completes)
      by_cases same : row.link = link
      · subst same
        obtain ⟨ids, listed, remote, assigned⟩ :=
          replaced row (KeyedTable.Table.find_of_mem present) level
        rw [uncapped_lists shows.lists, shows.lists.membersOf] at listed
        obtain rfl := Except.ok.inj (listed.symm.trans qualifying.listed)
        rw [shows.lists.userLimit, List.take_of_length_le qualifying.within] at remote assigned
        exact ⟨shows.lists.trans change.lists, remote, assigned⟩
      · refine ⟨shows.lists.trans change.lists, ?_, ?_⟩
        · rw [change.remote _ same, shows.remote]
        · rw [change.assignments _ same, shows.assignments]

/-- Every completed series of jobs keeps what is shown. -/
theorem shows_completed {jobs : List Dispatch} (shows : Shows row base all world)
    (completed : Completed engines jobs world after) : Shows row base all after := by
  induction jobs generalizing world with
  | nil =>
      obtain rfl : after = world := completed
      exact shows
  | cons dispatch rest ih =>
      obtain ⟨middle, first, others⟩ := completed
      exact ih (shows_completes stored qualifying views shows first) others

/-- No job of either kind writes to the list that is there already. -/
theorem shows_spares (shows : Shows row base all world) (dispatch : Dispatch) (indices : List Nat) :
    EventRun.Guarded (System.serve engines) (Spares row.link) (System.alone engines world dispatch)
      indices := by
  have present : row ∈ world.tables.roleLinks.rows := shows.lists.roleLinks ▸ stored
  have level := shows.assignments.trans shows.remote.symm
  cases dispatch with
  | playerSync discordId =>
      exact player_spares present level (outcome_shown qualifying views shows) indices
  | configSync link =>
      refine @guarded_of_along engines 0 (syncForRoleLink link) indices _ row.link rfl ?_
      by_cases same : row.link = link
      · subst same
        have listed : uncapped engines world (world.membersOf row.link.1)
            (RuleTree.ofColumn row.ruleTree.value) = .ok all := by
          rw [uncapped_lists shows.lists, shows.lists.membersOf]
          exact qualifying.listed
        have within : all.length ≤ world.userLimit row.link := by
          rw [shows.lists.userLimit]
          exact qualifying.within
        exact syncForRoleLink_along (KeyedTable.Table.find_of_mem present) listed within shows.assignments
      · exact along_of_only (fun _ _ kept => kept) (syncForRoleLink_only (Ne.symm same)) world

end Further

/-- The jobs of all members, in any order, and one job of the link lead to the same lists. After either
of them, no further job writes to the list of the link. -/
theorem members_and_link_confluent (engines : Engines) (agrees : RegexAgrees engines)
    (row : RoleLink) (tree : RuleTree) (world incremental replaced : World)
    (start : Comparable engines row tree world) (order : List DiscordId)
    (everyMember : ∀ discordId, discordId ∈ order ↔ discordId ∈ world.membersOf row.guildId)
    (members : Completed engines (order.map .playerSync) world incremental)
    (link : Completes engines (.configSync row.link) world replaced) :
    incremental.remote row.link = replaced.remote row.link ∧
      incremental.tables.roleAssignments row.link = replaced.tables.roleAssignments row.link ∧
      ∀ reached ∈ [incremental, replaced], ∀ jobs later, Completed engines jobs reached later →
        ∀ dispatch indices, EventRun.Guarded (System.serve engines) (Spares row.link)
          (System.alone engines later dispatch) indices := by
  obtain ⟨lists, level, decided, legible⟩ := players_complete start.stored
    (fun discordId member => (start.views discordId).mp ((everyMember discordId).mp member))
    (.refl world) start.level members
  obtain ⟨change, left⟩ := serves_syncForRoleLink (link_completes link)
  obtain ⟨all, listed, remote, assigned⟩ :=
    left row (KeyedTable.Table.find_of_mem start.stored) start.level
  have agree := members_agree agrees start
    (fun discordId member => legible discordId ((everyMember discordId).mpr member)) listed
  have qualifying := qualifying_of_agree start listed agree
  rw [List.take_of_length_le qualifying.within] at remote assigned
  have gathered : incremental.remote row.link = all.toFinset := by
    ext discordId
    rw [decided, List.mem_toFinset]
    split
    · next member => exact agree discordId ((everyMember discordId).mp member)
    · next outside =>
        have absent : discordId ∉ world.membersOf row.guildId := fun member =>
          outside ((everyMember discordId).mpr member)
        exact iff_of_false (fun held => absent (start.inside discordId held))
          fun among => absent (member_of_listed listed among)
  have incrementalShows : Shows row world all incremental := ⟨lists, gathered, level.trans gathered⟩
  have replacedShows : Shows row world all replaced := ⟨change.lists, remote, assigned⟩
  refine ⟨gathered.trans remote.symm, (level.trans gathered).trans assigned.symm, ?_⟩
  intro reached either jobs later completed dispatch indices
  have shown : Shows row world all reached := by
    obtain rfl | second := List.mem_cons.mp either
    · exact incrementalShows
    · exact List.mem_singleton.mp second ▸ replacedShows
  exact shows_spares start.stored qualifying start.views
    (shows_completed start.stored qualifying start.views shown completed) dispatch indices

section Pair

/-- One of two members is linked, and the link of their guild grants the role to every player. -/
def twoMembers : World :=
  { Sample.grantingWorld "token" Sample.onePlayer Sample.onePlayer_distinct 10 with
    membersOf := fun _ => ["1", "2"]
    guildsOf := fun discordId => if discordId ∈ ["1", "2"] then ["guild"] else [] }

/-- A job that performs this many operations, all of one thread. -/
def served (world : World) (dispatch : Dispatch) (count : Nat) : Option System :=
  EventRun.run (System.serve Sample.letterEngines) (System.alone Sample.letterEngines world dispatch)
    (List.replicate count 0)

theorem twoMembers_comparable :
    Comparable Sample.letterEngines (Sample.roleLink "token" Sample.grantAny) (grantTree .osu)
      twoMembers where
  stored := List.mem_singleton_self _
  rule := rfl
  offered := grantTree_offered .osu
  past user stored _ := by
    rw [List.mem_singleton.mp stored]
    exact ⟨le_refl _, fun _ impossible => by cases impossible⟩
  views discordId := by
    change discordId ∈ ["1", "2"] ↔ "guild" ∈ if discordId ∈ ["1", "2"] then ["guild"] else []
    split
    · next member => exact iff_of_true member List.mem_cons_self
    · next outside => exact iff_of_false outside List.not_mem_nil
  level := rfl
  inside _ impossible := absurd impossible (Finset.notMem_empty _)
  fits := by decide +kernel

theorem two_members_confluent :
    ∃ incremental replaced,
      Completed Sample.letterEngines (["2", "1"].map .playerSync) twoMembers incremental ∧
        Completes Sample.letterEngines (.configSync Sample.link) twoMembers replaced ∧
        incremental.remote Sample.link = replaced.remote Sample.link := by
  have players : ∃ first ∈ served twoMembers (.playerSync "2") 4, first.quiet = true ∧
      ∃ second ∈ served first.world (.playerSync "1") 6, second.quiet = true := by decide +kernel
  have bulk : ∃ last ∈ served twoMembers (.configSync Sample.link) 7, last.quiet = true := by
    decide +kernel
  obtain ⟨first, ranFirst, quietFirst, second, ranSecond, quietSecond⟩ := players
  obtain ⟨last, ran, quiet⟩ := bulk
  have members : Completed Sample.letterEngines (["2", "1"].map .playerSync) twoMembers second.world :=
    ⟨first.world, ⟨_, first, ranFirst, quietFirst, rfl⟩, second.world,
      ⟨_, second, ranSecond, quietSecond, rfl⟩, rfl⟩
  have link : Completes Sample.letterEngines (.configSync Sample.link) twoMembers last.world :=
    ⟨_, last, ran, quiet, rfl⟩
  refine ⟨second.world, last.world, members, link, ?_⟩
  refine (members_and_link_confluent Sample.letterEngines letterEngines_agree _ (grantTree .osu)
    twoMembers second.world last.world twoMembers_comparable ["2", "1"] (fun discordId => ?_) members
    link).1
  change discordId ∈ ["2", "1"] ↔ discordId ∈ ["1", "2"]
  simp [or_comm]

end Pair

end OsuPlayerRole.Sync
