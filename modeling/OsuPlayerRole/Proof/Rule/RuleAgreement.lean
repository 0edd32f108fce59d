/-
This file compares the verdict of the player job with the bulk query of the link job.
-/
import OsuPlayerRole.Construction.Services.SyncWorld
import OsuPlayerRole.Proof.Rule.RuleClause

namespace OsuPlayerRole.Sync

open Json ThreeValued ConditionEval RuleValidator RuleSql Resumption Checked

/-- This is the verdict `qualifies` of the player job for one stored tree. -/
def verdict (engines : Engines) (world : World) (discordId : DiscordId) (column : Jsonb) :
    Except AppError Bool :=
  let program : SyncProgram Bool := do
    let isLinked ← ask (.existsOsuUser discordId)
    qualifies engines discordId isLinked (RuleTree.ofColumn column.value)
  (Program.run (perform engines) world program).1

/-- This is the list of the link job before its limit. The drain stands for the empty list. -/
def uncapped (engines : Engines) (world : World) (members : List DiscordId) (tree : RuleTree) :
    Except DbError (List DiscordId) :=
  if !tree.grantOnAnyPlayer && tree.groups.isEmpty then .ok []
  else if members.isEmpty then .ok []
  else if tree.grantOnAnyPlayer then linkedIds world.tables members
  else
    let (clause, binds) := buildRuleWhere tree 2
    qualifyingIds engines world.now world.tables tree.defaultMode members clause binds

/-- The link job asks for exactly this list, cut at the limit. -/
theorem qualifyingQuery_uncapped (engines : Engines) (world : World) {members : List DiscordId}
    {tree : RuleTree} (configured : (!tree.grantOnAnyPlayer && tree.groups.isEmpty) = false)
    (present : members.isEmpty = false) (userLimit : Nat) :
    Program.run (perform engines) world (qualifyingQuery tree members userLimit) =
      ((uncapped engines world members tree >>= limited userLimit).mapError .database, world) := by
  unfold uncapped qualifyingQuery
  rw [configured, if_neg Bool.false_ne_true, present, if_neg Bool.false_ne_true]
  split
  · exact Program.run_ask _ _ _
  · exact Program.run_ask _ _ _

section Verdict

variable {engines : Engines} {world : World} {discordId : DiscordId}

/-- The evaluator's verdict, by the kind of the stored tree. -/
theorem verdict_eq (column : Jsonb) {tree : RuleTree} (read : RuleTree.ofColumn column.value = tree) :
    verdict engines world discordId column =
      if tree.grantOnAnyPlayer then .ok (world.tables.osuUsers.find discordId).isSome
      else if tree.groups.isEmpty then .ok false
      else (selectFacts world.tables discordId tree.defaultMode).mapError .database >>= fun found =>
        .ok (match found with
          | some row => evaluate engines world.now tree row.facts
          | none => false) := by
  have linked : Program.run (perform engines) world (ask (.existsOsuUser discordId)) =
      (.ok (world.tables.osuUsers.find discordId).isSome, world) := Program.run_ask _ _ _
  have facts : Program.run (perform engines) world (ask (.selectFacts discordId tree.defaultMode)) =
      answered world (selectFacts world.tables discordId tree.defaultMode) := Program.run_ask _ _ _
  unfold verdict
  dsimp only
  rw [read, Program.run_bind, linked]
  unfold qualifies
  dsimp only
  split
  · rfl
  · split
    · rfl
    · rw [Program.run_bind, facts]
      unfold answered
      cases selectFacts world.tables discordId tree.defaultMode with
      | error error => rfl
      | ok found => cases found <;> rfl

end Verdict

section Bulk

variable {engines : Engines} {world : World} {members : List DiscordId} {discordId : DiscordId}

theorem mem_idsOf {users : List OsuUser} :
    discordId ∈ idsOf users ↔ ∃ user ∈ users, user.discordId = discordId := by
  simp [idsOf]

theorem mem_membersOf {tables : Tables} {user : OsuUser} :
    user ∈ membersOf tables members ↔ user ∈ tables.osuUsers.rows ∧ user.discordId ∈ members := by
  simp [membersOf]

/-- Parameters are sent when each of them can be. -/
theorem send_ok {parameters : List Bind} :
    send parameters = .ok () ↔ ∀ bind ∈ parameters, bind.sendable = true := by
  rw [send, ← List.all_eq_true]
  split <;> simp_all

/-- The filter keeps exactly the rows whose condition is TRUE. -/
theorem mem_filterRows {condition : OsuUser → Except DbError Truth} {users kept : List OsuUser}
    (filtered : filterRows condition users = .ok kept) {user : OsuUser} :
    user ∈ kept ↔ user ∈ users ∧ condition user = .ok (some true) := by
  induction users generalizing kept with
  | nil =>
      cases filtered
      simp
  | cons first rest ih =>
      obtain ⟨truth, value, filtered⟩ := bind_ok filtered
      obtain ⟨others, remaining, filtered⟩ := bind_ok filtered
      cases filtered
      rw [List.mem_cons]
      have later := ih remaining
      split
      · next chosen =>
          have true_first : condition first = .ok (some true) := value.trans (congrArg _ chosen)
          rw [List.mem_cons, later]
          constructor
          · rintro (rfl | ⟨inside, holds⟩)
            · exact ⟨Or.inl rfl, true_first⟩
            · exact ⟨Or.inr inside, holds⟩
          · rintro ⟨rfl | inside, holds⟩
            · exact Or.inl rfl
            · exact Or.inr ⟨inside, holds⟩
      · next dropped =>
          rw [later]
          constructor
          · rintro ⟨inside, holds⟩
            exact ⟨Or.inr inside, holds⟩
          · rintro ⟨rfl | inside, holds⟩
            · rw [value] at holds
              exact absurd (Except.ok.inj holds) dropped
            · exact ⟨inside, holds⟩

/-- Without errors the filter keeps exactly the rows whose condition is TRUE. -/
theorem filterRows_decides {condition : OsuUser → Except DbError Truth} {fact : OsuUser → Prop}
    {users : List OsuUser} (decides : ∀ user ∈ users, Decides (condition user) (fact user)) :
    ∃ kept, filterRows condition users = .ok kept ∧
      ∀ user, user ∈ kept ↔ user ∈ users ∧ fact user := by
  induction users with
  | nil => exact ⟨[], rfl, by simp⟩
  | cons first rest ih =>
      rw [List.forall_mem_cons] at decides
      obtain ⟨truth, value, holdsFact⟩ := decides.1
      obtain ⟨kept, remaining, inside⟩ := ih decides.2
      refine ⟨if holds truth then first :: kept else kept, ?_, fun user => ?_⟩
      · rw [filterRows, value, remaining]
        rfl
      · split
        · next kept_first =>
            have fact_first := holdsFact.mp kept_first
            rw [List.mem_cons, inside, List.mem_cons]
            constructor
            · rintro (rfl | ⟨member, known⟩)
              · exact ⟨Or.inl rfl, fact_first⟩
              · exact ⟨Or.inr member, known⟩
            · rintro ⟨rfl | member, known⟩
              · exact Or.inl rfl
              · exact Or.inr ⟨member, known⟩
        · next dropped =>
            rw [inside, List.mem_cons]
            constructor
            · rintro ⟨member, known⟩
              exact ⟨Or.inr member, known⟩
            · rintro ⟨rfl | member, known⟩
              · exact absurd (holdsFact.mpr known) dropped
              · exact ⟨member, known⟩

/-- A sendable bulk query returns the members whose row meets the decided fact. -/
theorem mem_qualifyingIds {mode : Mode} {clause : Where} {binds : List Bind}
    {fact : OsuUser → Prop} (sendable : ∀ bind ∈ binds, bind.sendable = true)
    (sent : send [.textArray members] = .ok ())
    (decides : ∀ user ∈ membersOf world.tables members,
      Decides (clause.truth engines ([.text mode.asStr, .textArray members] ++ binds) world.now
        ⟨user, world.tables.statsOf user mode⟩) (fact user)) :
    (∃ ids, qualifyingIds engines world.now world.tables mode members clause binds = .ok ids ∧
      discordId ∈ ids) ↔
      ∃ user ∈ world.tables.osuUsers.rows, user.discordId = discordId ∧ discordId ∈ members ∧
        fact user := by
  obtain ⟨kept, filtered, inside⟩ := filterRows_decides decides
  have accepted : send ([.text mode.asStr, .textArray members] ++ binds) = .ok () := by
    rw [send_ok] at sent ⊢
    have modeSendable : (Bind.text mode.asStr).sendable = true := by
      cases mode <;> decide
    intro bind member
    simp only [List.cons_append, List.nil_append, List.mem_cons] at member
    rcases member with rfl | rfl | inside
    · exact modeSendable
    · exact sent _ List.mem_cons_self
    · exact sendable bind inside
  have value : qualifyingIds engines world.now world.tables mode members clause binds =
      .ok (idsOf kept) := by
    unfold qualifyingIds
    dsimp only
    rw [accepted, filtered]
    rfl
  rw [value]
  constructor
  · rintro ⟨ids, same, member⟩
    cases same
    obtain ⟨user, found, rfl⟩ := mem_idsOf.mp member
    obtain ⟨row, known⟩ := (inside user).mp found
    obtain ⟨stored, chosen⟩ := mem_membersOf.mp row
    exact ⟨user, stored, rfl, chosen, known⟩
  · rintro ⟨user, stored, rfl, chosen, known⟩
    refine ⟨_, rfl, mem_idsOf.mpr ⟨user, (inside user).mpr ⟨?_, known⟩, rfl⟩⟩
    exact mem_membersOf.mpr ⟨stored, chosen⟩

/-- The bulk query returns linked members only. -/
theorem linked_of_uncapped {tree : RuleTree} {ids : List DiscordId}
    (listed : uncapped engines world members tree = .ok ids) (inside : discordId ∈ ids) :
    ∃ user ∈ world.tables.osuUsers.rows, user.discordId = discordId ∧ discordId ∈ members := by
  have chosen {users : List OsuUser} (among : ∀ user ∈ users, user ∈ membersOf world.tables members)
      (member : discordId ∈ idsOf users) :
      ∃ user ∈ world.tables.osuUsers.rows, user.discordId = discordId ∧ discordId ∈ members := by
    obtain ⟨user, found, rfl⟩ := mem_idsOf.mp member
    obtain ⟨stored, named⟩ := mem_membersOf.mp (among user found)
    exact ⟨user, stored, rfl, named⟩
  unfold uncapped at listed
  split_ifs at listed
  · cases listed
    exact absurd inside List.not_mem_nil
  · cases listed
    exact absurd inside List.not_mem_nil
  · obtain ⟨_, _, listed⟩ := bind_ok listed
    cases listed
    exact chosen (fun _ member => member) inside
  · obtain ⟨_, _, listed⟩ := bind_ok listed
    obtain ⟨kept, filtered, listed⟩ := bind_ok listed
    cases listed
    exact chosen (fun user found => ((mem_filterRows filtered).mp found).1) inside

end Bulk

/-- A link holds the default tree or an accepted tree, whose lists hold texts. -/
def Offered (engines : Engines) (tree : RuleTree) : Prop :=
  tree = default ∨
    (∃ body, parseRuleTree engines body = .ok tree) ∧
      ∀ group ∈ tree.groups, ∀ condition ∈ group.conditions, HoldsText condition

/-- Both jobs decide one stored tree alike for one member. -/
def Alike (engines : Engines) (world : World) (members : List DiscordId) (column : Jsonb)
    (discordId : DiscordId) : Prop :=
  verdict engines world discordId column = .ok true ↔
    ∃ ids, uncapped engines world members (RuleTree.ofColumn column.value) = .ok ids ∧ discordId ∈ ids

/-- Both jobs decide every stored tree of the mode alike for every member. -/
def PathsAgree (engines : Engines) (world : World) (members : List DiscordId) (mode : Mode) : Prop :=
  ∀ (tree : RuleTree) (column : Jsonb), Offered engines tree → tree.defaultMode = mode →
    column.value = tree.toValue → ∀ discordId ∈ members, Alike engines world members column discordId

/-- The list of members can be sent, and the facts query can read the row of each linked member. -/
def ReadableMembers (world : World) (members : List DiscordId) (mode : Mode) : Prop :=
  ∀ user ∈ world.tables.osuUsers.rows, user.discordId ∈ members →
    send [.textArray members] = .ok () ∧ Readable ⟨user, world.tables.statsOf user mode⟩

/-- What one tree needs for one member. Only a linked member can be listed, the default tree lists nobody,
and only the facts query of a tree with groups reads the rows. -/
def Served (world : World) (members : List DiscordId) (tree : RuleTree) (discordId : DiscordId) : Prop :=
  (world.tables.osuUsers.find discordId).isSome = true →
    (tree.grantOnAnyPlayer = true → send [.textArray members] = .ok ()) ∧
      (tree.grantOnAnyPlayer = false → tree.groups ≠ [] →
        ReadableMembers world members tree.defaultMode)

section Agreement

variable {engines : Engines} {world : World} {members : List DiscordId} {mode : Mode}

/-- A value inside an object that can be stored can be stored. -/
theorem storable_field {fields : List (String × Value)} {value : Value} (key : String)
    (storable : Value.storableFields fields = true) (member : (key, value) ∈ fields) :
    value.storable = true := by
  induction fields with
  | nil => exact absurd member List.not_mem_nil
  | cons first rest ih =>
      obtain ⟨name, other⟩ := first
      rw [Value.storableFields, Bool.and_eq_true, Bool.and_eq_true] at storable
      rcases List.mem_cons.mp member with same | inside
      · cases same
        exact storable.1.2
      · exact ih storable.2 inside

/-- The texts of a stored tree have no character NUL. -/
theorem storable_conditions {tree : RuleTree} (storable : tree.toValue.storable = true) :
    ∀ group ∈ tree.groups, ∀ condition ∈ group.conditions, condition.value.storable = true := by
  intro group member condition inside
  have groups : (Value.array (tree.groups.map ConditionGroup.toValue)).storable = true :=
    storable_field "groups" storable (by simp)
  have stored : group.toValue.storable = true :=
    storable_item groups (List.mem_map_of_mem member)
  have conditions : (Value.array (group.conditions.map Condition.toValue)).storable = true :=
    storable_field "conditions" stored (by simp)
  have kept : condition.toValue.storable = true :=
    storable_item conditions (List.mem_map_of_mem inside)
  exact storable_field "value" kept (by simp)

theorem find_isSome_eq (discordId : DiscordId) :
    (world.tables.osuUsers.find discordId).isSome = true ↔
      ∃ user ∈ world.tables.osuUsers.rows, user.discordId = discordId :=
  KeyedTable.Table.find_isSome

/-- The facts query succeeds on readable rows alone. -/
theorem readable_of_selectFacts {user : OsuUser} {found : Option FactsRow}
    (stored : user ∈ world.tables.osuUsers.rows)
    (selected : selectFacts world.tables user.discordId mode = .ok found) :
    Readable ⟨user, world.tables.statsOf user mode⟩ := by
  rw [selectFacts, KeyedTable.Table.find_of_mem stored] at selected
  change some <$> factsSelect ⟨user, world.tables.statsOf user mode⟩ = _ at selected
  cases facts : factsSelect ⟨user, world.tables.statsOf user mode⟩ with
  | error error =>
      rw [facts] at selected
      cases selected
  | ok row => exact readable_of_factsSelect facts

/-- The default tree drains, and its verdict is negative. -/
theorem default_agrees {discordId : DiscordId} (column : Jsonb)
    (read : RuleTree.ofColumn column.value = default) : Alike engines world members column discordId := by
  unfold Alike
  rw [verdict_eq column read, read]
  constructor
  · intro positive
    cases positive
  · rintro ⟨ids, listed, inside⟩
    cases listed
    exact absurd inside List.not_mem_nil

/-- A tree that grants to every player is decided alike exactly when the list of members can be sent for a
linked member. -/
theorem grant_agrees {discordId : DiscordId} {tree : RuleTree} (column : Jsonb)
    (read : RuleTree.ofColumn column.value = tree) (granted : tree.grantOnAnyPlayer = true)
    (member : discordId ∈ members) :
    Alike engines world members column discordId ↔
      ((world.tables.osuUsers.find discordId).isSome = true → send [.textArray members] = .ok ()) := by
  have present : members.isEmpty = false := by
    rw [List.isEmpty_eq_false_iff_exists_mem]
    exact ⟨_, member⟩
  have query : uncapped engines world members tree = linkedIds world.tables members := by
    simp only [uncapped, granted, present]
    rfl
  unfold Alike
  rw [verdict_eq column read, read, if_pos granted, Except.ok.injEq, query]
  constructor
  · intro alike linked
    obtain ⟨_, listed, _⟩ := alike.mp linked
    obtain ⟨_, sent, _⟩ := bind_ok listed
    exact sent
  · intro sent
    constructor
    · intro linked
      obtain ⟨user, stored, rfl⟩ := (find_isSome_eq discordId).mp linked
      refine ⟨idsOf (membersOf world.tables members), ?_, ?_⟩
      · rw [linkedIds, sent linked]
        rfl
      · exact mem_idsOf.mpr ⟨user, mem_membersOf.mpr ⟨stored, member⟩, rfl⟩
    · rintro ⟨ids, listed, inside⟩
      obtain ⟨user, stored, same, _⟩ := linked_of_uncapped (query.trans listed) inside
      exact (find_isSome_eq discordId).mpr ⟨user, stored, same⟩

/-- A tree with groups is decided alike for a linked member when the rows of all linked members can be
read. -/
theorem groups_agree (agrees : RegexAgrees engines) {discordId : DiscordId} {tree : RuleTree}
    (column : Jsonb) (stored : column.value = tree.toValue)
    (read : RuleTree.ofColumn column.value = tree) (plain : tree.grantOnAnyPlayer = false)
    (configured : tree.groups ≠ []) (shaped : ∀ group ∈ tree.groups, ShapedGroup engines group)
    (texts : ∀ group ∈ tree.groups, ∀ condition ∈ group.conditions, HoldsText condition)
    (past : ∀ user ∈ world.tables.osuUsers.rows, user.discordId ∈ members → Past world.now user)
    (readable : (world.tables.osuUsers.find discordId).isSome = true →
      ReadableMembers world members tree.defaultMode) (member : discordId ∈ members) :
    Alike engines world members column discordId := by
  have some_groups : tree.groups.isEmpty = false := by simpa using configured
  unfold Alike
  rw [verdict_eq column read, read, plain, some_groups, if_neg Bool.false_ne_true,
    if_neg Bool.false_ne_true]
  cases found : world.tables.osuUsers.find discordId with
  | none =>
      have absent : selectFacts world.tables discordId tree.defaultMode = .ok none := by
        rw [selectFacts, found]
      rw [absent]
      constructor
      · intro positive
        cases positive
      · rintro ⟨ids, listed, inside⟩
        obtain ⟨user, present, same, _⟩ := linked_of_uncapped listed inside
        exact absurd same (KeyedTable.Table.find_eq_none.mp found user present)
  | some user =>
      have rows := readable (by rw [found]; rfl)
      obtain ⟨present, rfl⟩ := KeyedTable.Table.find_eq_some.mp found
      obtain ⟨sent, legible⟩ := rows user present member
      have facts : selectFacts world.tables user.discordId tree.defaultMode =
          .ok (some (readRow ⟨user, world.tables.statsOf user tree.defaultMode⟩)) := by
        rw [selectFacts, found]
        dsimp only
        rw [factsSelect_readable legible]
        rfl
      obtain ⟨clause, binds, built, sendable, decides⟩ :=
        buildRuleWhere_decides agrees world.now plain configured shaped texts
      have nonempty : members.isEmpty = false := by
        rw [List.isEmpty_eq_false_iff_exists_mem]
        exact ⟨_, member⟩
      have query : uncapped engines world members tree =
          qualifyingIds engines world.now world.tables tree.defaultMode members clause binds := by
        simp only [uncapped, plain, some_groups, nonempty, built]
        rfl
      have clean : ∀ bind ∈ binds, bind.sendable = true :=
        sendable (storable_conditions (stored ▸ column.storable))
      have decided : ∀ other ∈ membersOf world.tables members,
          Decides (clause.truth engines
            ([.text tree.defaultMode.asStr, .textArray members] ++ binds) world.now
            ⟨other, world.tables.statsOf other tree.defaultMode⟩)
          (evaluate engines world.now tree
            (readRow ⟨other, world.tables.statsOf other tree.defaultMode⟩).facts = true) := by
        intro other inside
        obtain ⟨row, chosen⟩ := mem_membersOf.mp inside
        exact decides _ _ _ (rows other row chosen).2 (past other row chosen)
      rw [facts, query, mem_qualifyingIds clean sent decided]
      constructor
      · intro positive
        exact ⟨user, present, rfl, member, by simpa [bind, Except.bind, Except.mapError] using positive⟩
      · rintro ⟨other, row, same, _, positive⟩
        obtain rfl := world.tables.osuUsers.eq_of_key row present same
        simpa [bind, Except.bind, Except.mapError] using positive

/-- An offered tree is read back from its column. -/
theorem Offered.read {tree : RuleTree} {column : Jsonb} (offered : Offered engines tree)
    (stored : column.value = tree.toValue) : RuleTree.ofColumn column.value = tree := by
  rw [stored]
  rcases offered with rfl | ⟨⟨body, parsed⟩, _⟩
  · rfl
  · exact ofColumn_toValue (parseRuleTree_shaped parsed)

/-- What a tree needs for a member makes both jobs decide it alike. -/
theorem alike_of_served (agrees : RegexAgrees engines)
    (past : ∀ user ∈ world.tables.osuUsers.rows, user.discordId ∈ members → Past world.now user)
    {tree : RuleTree} {column : Jsonb} (offered : Offered engines tree)
    (stored : column.value = tree.toValue) {discordId : DiscordId} (member : discordId ∈ members)
    (served : Served world members tree discordId) : Alike engines world members column discordId := by
  have read := offered.read stored
  rcases offered with rfl | ⟨⟨body, parsed⟩, texts⟩
  · exact default_agrees column read
  · have shaped := parseRuleTree_shaped parsed
    rcases shaped.1 with ⟨granted, _⟩ | ⟨plain, configured⟩
    · exact (grant_agrees column read granted member).mpr fun linked => (served linked).1 granted
    · exact groups_agree agrees column stored read plain configured shaped.2 texts past
        (fun linked => (served linked).2 plain configured) member

/-- A tree without groups is decided alike only with what it needs. -/
theorem served_of_alike {tree : RuleTree} {column : Jsonb} (offered : Offered engines tree)
    (stored : column.value = tree.toValue) {discordId : DiscordId} (member : discordId ∈ members)
    (ungrouped : tree.groups = []) (alike : Alike engines world members column discordId) :
    Served world members tree discordId := by
  intro linked
  refine ⟨fun granted => ?_, fun _ grouped => absurd ungrouped grouped⟩
  exact (grant_agrees column (offered.read stored) granted member).mp alike linked

/-- Readable member rows make both jobs agree. -/
theorem pathsAgree_of_readable (agrees : RegexAgrees engines)
    (past : ∀ user ∈ world.tables.osuUsers.rows, user.discordId ∈ members → Past world.now user)
    (readable : ReadableMembers world members mode) : PathsAgree engines world members mode := by
  rintro tree column offered rfl stored discordId member
  refine alike_of_served agrees past offered stored member fun linked => ⟨fun _ => ?_, fun _ _ => readable⟩
  obtain ⟨user, row, rfl⟩ := (find_isSome_eq discordId).mp linked
  exact (readable user row member).1

end Agreement

end OsuPlayerRole.Sync
