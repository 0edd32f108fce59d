/-
This file shows that every call to RoleLogic rests on what its own job has seen of the surroundings.
-/
import OsuPlayerRole.Proof.Sync.Grounds

namespace OsuPlayerRole.Sync

open Resumption Program RuleSql SharedLog

section Seen

variable (engines : Engines) (moments : List Moment)

/-- The surroundings of a moment have served this operation. -/
def Observed (operation : SyncOp) (moment : Moment) : Prop :=
  moment ∈ moments ∧ moment.outcome = .served ∧ moment.operation = operation

/-- The gateway has listed the guild among those of the player. -/
def InGuild (discordId : DiscordId) (guildId : GuildId) : Prop :=
  ∃ moment, Observed moments (.fetchUserGuildIds discordId) moment ∧
    guildId ∈ moment.world.guildsOf discordId

/-- The job has read the link, alone or among the links of some guilds. -/
inductive LinkRead (link : Link) (moment : Moment) : Prop where
  | alone (observed : Observed moments (.selectRoleLink link) moment)
  | listed {guildIds : List GuildId} (named : link.1 ∈ guildIds)
      (observed : Observed moments (.selectRoleLinks guildIds) moment)

/-- The link was stored with this token and this rule when the job read it. -/
def Stored (link : Link) (token : String) (tree : RuleTree) : Prop :=
  ∃ moment, LinkRead moments link moment ∧
    ∃ row, moment.world.tables.roleLinks.find link = some row ∧
      row.apiToken = token ∧ RuleTree.ofColumn row.ruleTree.value = tree

/-- The rule had this verdict on the player when the job read the account, or the facts and then the
clock. -/
inductive Judged (discordId : DiscordId) (tree : RuleTree) : Bool → Prop where
  | linked {moment : Moment} (granted : tree.grantOnAnyPlayer = true)
      (observed : Observed moments (.existsOsuUser discordId) moment) :
      Judged discordId tree (moment.world.tables.osuUsers.find discordId).isSome
  | unconfigured (plain : tree.grantOnAnyPlayer = false) (empty : tree.groups.isEmpty = true) :
      Judged discordId tree false
  | unknown {moment : Moment} (plain : tree.grantOnAnyPlayer = false)
      (observed : Observed moments (.selectFacts discordId tree.defaultMode) moment)
      (absent : moment.world.tables.osuUsers.find discordId = none) : Judged discordId tree false
  | evaluated {reading clock : Moment} {user : OsuUser} {row : FactsRow}
      (plain : tree.grantOnAnyPlayer = false)
      (observed : Observed moments (.selectFacts discordId tree.defaultMode) reading)
      (ticked : Observed moments .utcNow clock)
      (found : reading.world.tables.osuUsers.find discordId = some user)
      (selected : factsSelect ⟨user, reading.world.tables.statsOf user tree.defaultMode⟩ = .ok row) :
      Judged discordId tree (ConditionEval.evaluate engines clock.world.now tree row.facts)

/-- The query of the link job for the members that the rule selects. -/
def listingQuery (tree : RuleTree) (members : List DiscordId) (userLimit : Nat) : SyncOp :=
  if tree.grantOnAnyPlayer then .selectLinked members userLimit
  else .selectQualifying tree.defaultMode members (buildRuleWhere tree 2).1 (buildRuleWhere tree 2).2 userLimit

/-- The rule selected this list among the members of the guild when the job queried it, cut at the limit of
the link. -/
inductive Selected (link : Link) (tree : RuleTree) : List DiscordId → Prop where
  | unconfigured (nobody : (!tree.grantOnAnyPlayer && tree.groups.isEmpty) = true) :
      Selected link tree []
  | deserted {asking : Moment} (asked : Observed moments (.fetchGuildMemberIds link.1) asking)
      (empty : asking.world.membersOf link.1 = []) : Selected link tree []
  | queried {asking counting querying : Moment} {token : String} {ids : List DiscordId}
      (asked : Observed moments (.fetchGuildMemberIds link.1) asking)
      (counted : Observed moments (.getUserInfo link token) counting)
      (observed : Observed moments (listingQuery tree (asking.world.membersOf link.1)
        (counting.world.userLimit link)) querying)
      (listed : uncapped engines querying.world (asking.world.membersOf link.1) tree = .ok ids) :
      Selected link tree (ids.take (counting.world.userLimit link))

/-- What a job must have seen before an operation. -/
def Supports : SyncOp → Prop
  | .addUser link discordId token => ∃ tree, InGuild moments discordId link.1 ∧
      Stored moments link token tree ∧ Judged engines moments discordId tree true
  | .removeUser link discordId token => (∃ tree, InGuild moments discordId link.1 ∧
      Stored moments link token tree ∧ Judged engines moments discordId tree false) ∧
        ∃ moment, Observed moments (.selectAssignmentsOf discordId) moment ∧
          discordId ∈ moment.world.tables.roleAssignments link
  | .uploadUsers link ids token => ∃ tree, Stored moments link token tree ∧
      Selected engines moments link tree ids
  | .getUserInfo link token => ∃ tree, Stored moments link token tree
  | _ => True

end Seen

section Told

variable {engines : Engines} {moments : List Moment} {discordId : DiscordId} {link : Link}
  {token : String} {tree : RuleTree}

/-- A finding is the answer of the surroundings at a moment of the job. -/
theorem seen_of_told {operation : SyncOp} {value : operation.Value}
    (told : Findings.Tell (moments.map (Moment.performed engines)) operation value) :
    ∃ moment, Observed moments operation moment ∧
      (perform engines moment.world operation).1 = .ok value := by
  obtain ⟨⟨job, world, outcome, own⟩, inside, same⟩ := List.mem_map.mp told
  obtain ⟨rfl, answered⟩ := Sigma.mk.inj same
  have answered : (answer engines outcome world own).1 = .ok value := eq_of_heq answered
  cases outcome with
  | served => exact ⟨_, ⟨inside, rfl, rfl⟩, answered⟩
  | refused error => cases answered

/-- The link that a link job has read was stored. -/
theorem stored_of_selected {row : LinkRow}
    (told : Findings.Tell (moments.map (Moment.performed engines)) (.selectRoleLink link) (some row)) :
    Stored moments link row.apiToken (RuleTree.ofColumn row.rawTree) := by
  obtain ⟨moment, observed, answered⟩ := seen_of_told told
  obtain ⟨stored, found, rfl⟩ := Option.map_eq_some_iff.mp (Except.ok.inj answered)
  exact ⟨moment, .alone observed, stored, found, rfl, rfl⟩

/-- The gateway listed the guild, and the link that the job has read was stored. -/
theorem stored_of_playerRead
    (read : PlayerRead (moments.map (Moment.performed engines)) discordId link token tree) :
    InGuild moments discordId link.1 ∧ Stored moments link token tree := by
  obtain ⟨guildIds, rows, row, asked, selected, member, rfl, rfl, rfl⟩ := read
  obtain ⟨moment, observed, answered⟩ := seen_of_told asked
  obtain ⟨reading, listing, found⟩ := seen_of_told selected
  obtain ⟨_, _, returned⟩ := Checked.bind_ok (answered_ok found)
  cases returned
  obtain ⟨stored, kept, rfl⟩ := List.mem_map.mp member
  obtain ⟨present, listed⟩ := List.mem_filter.mp kept
  have named : stored.guildId ∈ guildIds := List.contains_iff_mem.mp listed
  have same : moment.world.guildsOf discordId = guildIds := Except.ok.inj answered
  refine ⟨⟨moment, observed, ?_⟩, reading, .listed named listing, stored,
    KeyedTable.Table.find_of_mem present, rfl, rfl⟩
  rw [same]
  exact named

/-- The facts are those of the stored account, or there is no account. -/
theorem selectFacts_ok {tables : Tables} {mode : Mode} {found : Option FactsRow}
    (selected : selectFacts tables discordId mode = .ok found) :
    (tables.osuUsers.find discordId = none ∧ found = none) ∨
      ∃ user row, tables.osuUsers.find discordId = some user ∧
        factsSelect ⟨user, tables.statsOf user mode⟩ = .ok row ∧ found = some row := by
  unfold selectFacts at selected
  split at selected
  · next absent => exact Or.inl ⟨absent, (Except.ok.inj selected).symm⟩
  · next user present =>
      cases read : factsSelect ⟨user, tables.statsOf user mode⟩ with
      | error error =>
          rw [read] at selected
          cases selected
      | ok row =>
          rw [read] at selected
          cases selected
          exact Or.inr ⟨user, row, present, read, rfl⟩

/-- The verdict of the job is the verdict of the rule at its moments. -/
theorem judged_of_ruled {verdict : Bool}
    (ruled : PlayerRuled engines (moments.map (Moment.performed engines)) discordId tree verdict) :
    Judged engines moments discordId tree verdict := by
  cases ruled with
  | linked granted told =>
      obtain ⟨moment, observed, answered⟩ := seen_of_told told
      obtain rfl := Except.ok.inj answered
      exact .linked granted observed
  | unconfigured plain empty => exact .unconfigured plain empty
  | unknown plain told =>
      obtain ⟨moment, observed, answered⟩ := seen_of_told told
      obtain ⟨absent, _⟩ | ⟨_, _, _, _, impossible⟩ := selectFacts_ok (answered_ok answered)
      · exact .unknown plain observed absent
      · cases impossible
  | evaluated plain told clock =>
      obtain ⟨moment, observed, answered⟩ := seen_of_told told
      obtain ⟨later, ticked, now⟩ := seen_of_told clock
      obtain rfl := Except.ok.inj now
      obtain ⟨_, impossible⟩ | ⟨user, row, found, selected, same⟩ :=
        selectFacts_ok (answered_ok answered)
      · cases impossible
      · cases same
        exact .evaluated plain observed ticked found selected

/-- A query that is cut at the limit answers with the uncut list of its moment. -/
theorem cut_of_answered {world : World} {all : Except DbError (List DiscordId)} {limit : Nat}
    {ids : List DiscordId} (succeeded : (answered world (all >>= limited limit)).1 = .ok ids) :
    ∃ whole, all = .ok whole ∧ ids = whole.take limit := by
  obtain ⟨whole, listed, cut⟩ := Checked.bind_ok (answered_ok succeeded)
  refine ⟨whole, listed, ?_⟩
  unfold limited at cut
  split at cut
  · exact (Except.ok.inj cut).symm
  · cases cut

/-- The list of the job is the list of the rule at its moments. -/
theorem selected_of_ruled {ids : List DiscordId}
    (ruled : LinkRuled (moments.map (Moment.performed engines)) link tree ids) :
    Selected engines moments link tree ids := by
  cases ruled with
  | unconfigured nobody => exact .unconfigured nobody
  | deserted told =>
      obtain ⟨moment, asked, answered⟩ := seen_of_told told
      exact .deserted asked (Except.ok.inj answered)
  | linked granted inhabited asked informed told =>
      obtain ⟨asking, listing, answered⟩ := seen_of_told asked
      obtain ⟨counting, counted, limits⟩ := seen_of_told informed
      obtain ⟨querying, observed, queried⟩ := seen_of_told told
      obtain rfl := Except.ok.inj answered
      obtain rfl := Except.ok.inj limits
      obtain ⟨whole, listed, rfl⟩ := cut_of_answered queried
      have asked : Observed moments (listingQuery tree (asking.world.membersOf link.1)
          (counting.world.userLimit link)) querying := by
        rw [listingQuery, if_pos granted]
        exact observed
      refine .queried listing counted asked ?_
      have nonempty : (asking.world.membersOf link.1).isEmpty = false := by simpa using inhabited
      rw [uncapped, granted, nonempty]
      exact listed
  | qualifying plain configured inhabited asked informed told =>
      obtain ⟨asking, listing, answered⟩ := seen_of_told asked
      obtain ⟨counting, counted, limits⟩ := seen_of_told informed
      obtain ⟨querying, observed, queried⟩ := seen_of_told told
      obtain rfl := Except.ok.inj answered
      obtain rfl := Except.ok.inj limits
      obtain ⟨whole, listed, rfl⟩ := cut_of_answered queried
      have asked : Observed moments (listingQuery tree (asking.world.membersOf link.1)
          (counting.world.userLimit link)) querying := by
        rw [listingQuery, plain]
        exact observed
      refine .queried listing counted asked ?_
      have nonempty : (asking.world.membersOf link.1).isEmpty = false := by simpa using inhabited
      rw [uncapped, plain, configured, nonempty]
      exact listed

/-- What the findings of a job permit, its moments support. -/
theorem supports_of_permits {operation : SyncOp}
    (permitted : Permits engines (moments.map (Moment.performed engines)) operation) :
    Supports engines moments operation := by
  cases operation with
  | addUser link discordId token =>
      obtain ⟨tree, read, ruled⟩ := permitted
      obtain ⟨member, stored⟩ := stored_of_playerRead read
      exact ⟨tree, member, stored, judged_of_ruled ruled⟩
  | removeUser link discordId token =>
      obtain ⟨tree, read, ruled, existing, told, assigned⟩ := permitted
      obtain ⟨member, stored⟩ := stored_of_playerRead read
      obtain ⟨moment, observed, answered⟩ := seen_of_told told
      obtain rfl := Except.ok.inj answered
      refine ⟨⟨tree, member, stored, judged_of_ruled ruled⟩, moment, observed, ?_⟩
      obtain ⟨_, holds⟩ := List.mem_filter.mp (List.mem_toFinset.mp assigned)
      exact of_decide_eq_true holds
  | uploadUsers link ids token =>
      obtain ⟨row, told, rfl, ruled⟩ := permitted
      exact ⟨_, stored_of_selected told, selected_of_ruled ruled⟩
  | getUserInfo link token =>
      obtain ⟨row, told, rfl⟩ := permitted
      exact ⟨_, stored_of_selected told⟩
  | _ => trivial

end Told

section Trails

variable {engines : Engines} {trail after : Trail}

/-- Each thread may go on with the findings of its job. -/
def Founded (engines : Engines) (trail : Trail) : Prop :=
  ∀ thread ∈ trail.system.threads,
    thread.Backed Moment.job (Moment.performed engines) (Permits engines) trail.moments

/-- The job of the next operation has seen what supports it. -/
def Supported (engines : Engines) (trail : Trail) (event : Event) : Prop :=
  ∀ moment ∈ trail.system.moment? event, Supports engines (trail.ofJob moment.job) moment.operation

/-- Each job calls RoleLogic only with findings that permit it. -/
theorem dispatch_backed (engines : Engines) (dispatch : Dispatch) :
    (dispatch.program engines).Follows (recorded (Permits engines)) (Backs (Permits engines)) [] := by
  cases dispatch with
  | playerSync discordId =>
      refine follows_bind (syncForPlayer_permitted engines discordId) (fun actions last grounded => ?_)
        fun error _ _ branches same => by cases same
      intro branches same branch inside
      cases same
      obtain ⟨action, member, rfl⟩ := List.mem_map.mp inside
      exact performAction_permitted (grounded actions rfl action member)
  | configSync link =>
      refine follows_bind (syncForRoleLink_permitted engines link) (fun _ _ _ => ?_)
        fun error _ _ branches same => by cases same
      intro branches same branch inside
      cases same
      cases inside

/-- A new job needs no finding yet. -/
theorem founded_begin (founded : Founded engines trail) (dispatch : Dispatch) :
    ∀ thread ∈ trail.system.threads ++
        (⟨trail.system.jobs, dispatch.program engines⟩ : SyncThread).settled,
      thread.Backed Moment.job (Moment.performed engines) (Permits engines) trail.moments := by
  intro thread member
  obtain old | fresh := List.mem_append.mp member
  · exact founded thread old
  · exact backed_settled (follows_longer (permits_growing engines)
      (backs_longer (permits_growing engines)) (List.nil_subset _) (dispatch_backed engines dispatch))
      thread fresh

/-- Each step leaves every thread with the findings that it needs. -/
theorem founded_step {event : Event} (founded : Founded engines trail)
    (stepped : trail.step engines event = some after) : Founded engines after := by
  obtain ⟨system, moved, rfl⟩ := Option.map_eq_some_iff.mp stepped
  cases event with
  | begin dispatch =>
      cases moved
      rw [show trail.system.moment? (.begin dispatch) = none from rfl, Option.toList_none, List.append_nil]
      exact founded_begin founded dispatch
  | advance index outcome =>
      obtain ⟨⟨traced, threads⟩, advanced, rfl⟩ := Option.map_eq_some_iff.mp moved
      obtain ⟨front, job, operation, next, back, split, found, rfl, rfl⟩ := advance_cases advanced
      have entered : trail.system.moment? (.advance index outcome) =
          some ⟨job, trail.system.world, outcome, operation⟩ := by
        rw [System.moment?, found]
        rfl
      rw [entered, Option.toList_some]
      unfold Founded at founded
      rw [split] at founded
      exact @backed_advanced _ _ _ _ Moment.job (Moment.performed engines) (Permits engines) trail.moments
        ⟨job, trail.system.world, outcome, operation⟩ (permits_growing engines) front back operation next
        founded _ rfl
  | stop job =>
      cases moved
      rw [show trail.system.moment? (.stop job) = none from rfl, Option.toList_none, List.append_nil]
      exact fun thread inside => founded thread (List.mem_filter.mp inside).1
  | change world =>
      cases moved
      rw [show trail.system.moment? (.change world) = none from rfl, Option.toList_none, List.append_nil]
      exact founded
  | register link token =>
      rw [show trail.system.moment? (.register link token) = none from rfl, Option.toList_none,
        List.append_nil]
      simp only [System.step] at moved
      split at moved
      · cases moved
        exact founded
      · cases moved
        exact founded

/-- A thread that waits for an operation may perform it. -/
theorem supported_of_founded (founded : Founded engines trail) (event : Event) :
    Supported engines trail event := by
  intro moment entered
  cases event with
  | advance index outcome =>
      obtain ⟨⟨job, program⟩, found, waits⟩ := Option.bind_eq_some_iff.mp entered
      obtain ⟨operation, head, rfl⟩ := Option.map_eq_some_iff.mp waits
      have backed := founded _ (List.mem_of_getElem? found)
      cases program with
      | done branches => cases head
      | fail error => cases head
      | call own next =>
          cases head
          exact supports_of_permits backed.1
  | _ => cases entered

end Trails

/-- In every run every call to RoleLogic presents a token that its job has read from the stored link, a
grant and a removal follow the verdict of the stored rule on a player for whom the gateway lists the guild,
and a list is the one that the stored rule selects. -/
theorem calls_supported (engines : Engines) (world : World) (events : List Event) :
    EventRun.Guarded (Trail.step engines) (Supported engines) (Trail.start world) events :=
  EventRun.guarded_of_stable (Founded engines)
    (fun _ _ _ founded stepped => founded_step founded stepped)
    (fun _ event founded => supported_of_founded founded event)
    (fun _ member => absurd member List.not_mem_nil) events

end OsuPlayerRole.Sync
