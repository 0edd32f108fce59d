/-
This file shows that the preview of a rule foretells how many members its next link job grants.
-/
import OsuPlayerRole.Proof.Rule.ClockFree
import OsuPlayerRole.Proof.Rule.SavedTree
import OsuPlayerRole.Proof.Sync.CleanLink
import OsuPlayerRole.Proof.Web.Access
import OsuPlayerRole.Proof.Web.OptimisticLock
import OsuPlayerRole.Proof.Web.ReadOnlySession

namespace OsuPlayerRole.Web

open Resumption Program RuleSql RuleValidator Editing Sync

section Lengths

theorem length_idsOf (users : List OsuUser) :
    (idsOf users).length = (users.map OsuUser.discordId).toFinset.card := by
  have listed := List.toFinset_card_of_nodup
    (OrderedSet.ordered_nodup (users.map OsuUser.discordId).toFinset)
  rw [OrderedSet.toFinset_ordered] at listed
  exact listed.symm

theorem length_idsOf_le {kept users : List OsuUser} (among : kept ⊆ users) :
    (idsOf kept).length ≤ (idsOf users).length := by
  rw [length_idsOf, length_idsOf]
  refine Finset.card_le_card fun discordId inside => ?_
  rw [List.mem_toFinset] at inside ⊢
  exact List.map_subset _ among inside

/-- A list in the order of the mirror has no member twice. -/
theorem card_take {ids : List DiscordId} (sorted : OrderedSet.ordered ids.toFinset = ids) (limit : Nat) :
    (ids.take limit).toFinset.card = min limit ids.length := by
  have distinct : ids.Nodup := sorted ▸ OrderedSet.ordered_nodup ids.toFinset
  rw [List.toFinset_card_of_nodup (distinct.sublist (List.take_sublist limit ids)), List.length_take]

end Lengths

section Counting

variable {state : AppState} {outside : Outside} {tables after : Tables} {tree : RuleTree}
  {guildId : GuildId} {matching linked : Nat}

theorem countMatching_ok {members : List DiscordId}
    (counted : run (answer state outside) tables (Admin.countMatching tree members linked) =
      (.ok matching, after))
    (known : ∃ all, linkedIds tables members = .ok all ∧ linked = all.length)
    (somebody : members.isEmpty = false)
    (configured : (!tree.grantOnAnyPlayer && tree.groups.isEmpty) = false) (world : World)
    (same : world.tables = tables) (clock : world.now = outside.now) :
    matching ≤ linked ∧
      ∃ ids, uncapped state.engines world members tree = .ok ids ∧ matching = ids.length := by
  obtain ⟨all, found, rfl⟩ := known
  have query : uncapped state.engines world members tree =
      if tree.grantOnAnyPlayer then linkedIds tables members
      else qualifyingIds state.engines outside.now tables tree.defaultMode members
        (buildRuleWhere tree 2).1 (buildRuleWhere tree 2).2 := by
    rw [uncapped, if_neg (by rw [configured]; exact Bool.false_ne_true),
      if_neg (by rw [somebody]; exact Bool.false_ne_true), same, clock]
  unfold Admin.countMatching at counted
  split at counted
  · next granted =>
      cases counted
      rw [if_pos granted] at query
      exact ⟨le_rfl, all, query.trans found, rfl⟩
  · next plain =>
      rw [if_neg plain] at query
      obtain ⟨_, performed⟩ := ask_ok counted
      have answered := congrArg Prod.fst performed
      obtain ⟨ids, listed, length⟩ := Checked.bind_ok (Checked.mapError_ok.mp answered)
      obtain rfl : ids.length = matching := Except.ok.inj length
      refine ⟨?_, ids, query.trans listed, rfl⟩
      obtain ⟨_, _, filtered⟩ := Checked.bind_ok listed
      obtain ⟨kept, chosen, returned⟩ := Checked.bind_ok filtered
      obtain ⟨_, _, whole⟩ := Checked.bind_ok found
      cases returned
      cases whole
      exact length_idsOf_le fun user inside => ((mem_filterRows chosen).mp inside).1

/-- The counts of a preview are the lengths of the lists that the job would read at that moment. -/
theorem previewCountFor_ok
    (shown : run (answer state outside) tables (Admin.previewCountFor guildId tree) =
      (.ok (.available matching linked), after))
    (world : World) (same : world.tables = tables) (clock : world.now = outside.now)
    (members : outside.guildMemberIds guildId = .ok (world.membersOf guildId)) :
    matching ≤ linked ∧ ∃ ids, uncapped state.engines world (world.membersOf guildId) tree = .ok ids ∧
      matching = ids.length := by
  unfold Admin.previewCountFor at shown
  split at shown
  · next unconfigured =>
      cases shown
      exact ⟨le_rfl, [], if_pos unconfigured, rfl⟩
  · next configured =>
      obtain ⟨fetched, middle, asked, remaining⟩ := run_bind_ok shown
      cases fetched with
      | error error => cases remaining
      | ok found =>
          obtain ⟨_, performed⟩ := result_ok asked
          obtain ⟨answered, rfl⟩ := Prod.mk.inj performed
          obtain rfl : world.membersOf guildId = found := Except.ok.inj (members.symm.trans answered)
          dsimp only at remaining
          split at remaining
          · next nobody =>
              cases remaining
              exact ⟨le_rfl, [], by rw [uncapped, if_neg configured, if_pos nobody], rfl⟩
          · next somebody =>
              obtain ⟨count, counting, first, remaining⟩ := run_bind_ok remaining
              obtain ⟨total, last, second, returned⟩ := run_bind_ok remaining
              cases returned
              obtain ⟨_, read⟩ := ask_ok first
              obtain ⟨value, rfl⟩ := Prod.mk.inj read
              obtain ⟨all, found, known⟩ := Checked.bind_ok (Checked.mapError_ok.mp value)
              exact countMatching_ok second ⟨all, found, (Except.ok.inj known).symm⟩
                (Bool.eq_false_of_not_eq_true somebody) (Bool.eq_false_of_not_eq_true configured)
                world same clock

/-- The preview of an edited rule counts for the rule as the server has parsed it. -/
theorem roleConfigPreviewEdit_counts {headers : Headers} {roleId : RoleId} {body : RuleTreeBody}
    {count : Admin.PreviewCount} (parsed : parseRuleTree state.engines body = .ok tree)
    (shown : run (answer state outside) tables
      (Admin.roleConfigPreviewEdit state headers guildId roleId body) = (.ok count, after)) :
    run (answer state outside) tables (Admin.previewCountFor guildId tree) = (.ok count, after) := by
  obtain ⟨_, first, origin, remaining⟩ := run_bind_ok shown
  obtain ⟨access, second, admitted, remaining⟩ := run_bind_ok remaining
  obtain ⟨checked, third, passed, counting⟩ := run_bind_ok remaining
  have unchanged : first = tables := (check_ok origin).2
  have admission : second = first :=
    (congrArg Prod.snd admitted).symm.trans
      (run_reads state (along_reads state (only_requireRoleConfigAccess checks_read)))
  obtain ⟨same, parsing⟩ := check_ok passed
  obtain rfl : tree = checked := Except.ok.inj (parsed.symm.trans same)
  rwa [parsing, admission, unchanged] at counting

end Counting

section Saving

variable {state : AppState} {outside : Outside} {tables saved : Tables} {headers : Headers}
  {guildId : GuildId} {roleId : RoleId}

/-- A save that succeeds leaves its tree and the version it returns. -/
theorem roleConfigSave_stores {body : Admin.RoleConfigSaveBody} {tree : RuleTree} {version : Int4}
    (parsed : parseRuleTree state.engines body.tree = .ok tree)
    (ran : run (answer state outside) tables (Admin.roleConfigSave state headers guildId roleId body) =
      (.ok version, saved)) :
    ruleOf saved (guildId, roleId) = some (tree, version) := by
  obtain ⟨_, first, _, remaining⟩ := run_bind_ok ran
  obtain ⟨access, second, _, remaining⟩ := run_bind_ok remaining
  split at remaining
  · cases remaining
  · obtain ⟨checked, third, passed, stored⟩ := run_bind_ok remaining
    obtain ⟨same, rfl⟩ := check_ok passed
    obtain rfl : tree = checked := Except.ok.inj (parsed.symm.trans same)
    obtain ⟨affected, fourth, updated, remaining⟩ := run_bind_ok stored
    have written := answer_updated state outside third (guildId, roleId) tree.toValue
      body.ruleTreeVersion
    unfold ask at updated
    rw [run_ask] at updated
    rw [updated] at written
    split at remaining
    · next none =>
        obtain ⟨found, fifth, _, last⟩ := run_bind_ok remaining
        cases found <;> cases last
    · next some =>
        obtain ⟨newVersion, fifth, read, remaining⟩ := run_bind_ok remaining
        obtain ⟨_, sixth, enqueued, last⟩ := run_bind_ok remaining
        unfold ask at read
        rw [run_ask] at read
        unfold result at enqueued
        rw [run_result] at enqueued
        have looked : LinksKept fourth
            (answer state outside fourth (.selectNewVersion (guildId, roleId))).2 :=
          answer_kept state outside fourth not_false
        have queued : LinksKept fifth
            (answer state outside fifth (.enqueueConfigSync (guildId, roleId))).2 :=
          answer_kept state outside fifth not_false
        rw [read] at looked
        rw [(Prod.mk.inj enqueued).2] at queued
        obtain ⟨same, kept⟩ := Prod.mk.inj last
        cases written with
        | unmatched other => exact absurd rfl some
        | replaced old next after matched later stored frame =>
            have number := selectNewVersion_ok (congrArg Prod.fst read)
            rw [stored] at number
            rw [← kept, ruleOf_congr queued.roleLinks, ruleOf_congr looked.roleLinks, stored,
              ofColumn_toValue (parseRuleTree_shaped parsed), ← Except.ok.inj same]
            exact congrArg (fun number => Option.some (tree, number)) (Option.some.inj number)

end Saving

section Foretold

/-- The link job runs on the rule that was saved, and it reads the accounts and the members that the
preview has read. -/
structure SameBasis (outside : Outside) (tables saved : Tables) (tree : RuleTree) (link : Link)
    (world : World) : Prop where
  users : world.tables.osuUsers = tables.osuUsers
  stats : world.tables.osuStats = tables.osuStats
  rule : ruleOf world.tables link = ruleOf saved link
  members : outside.guildMemberIds link.1 = .ok (world.membersOf link.1)
  clock : world.now = outside.now ∨ ClockFree tree
  level : world.tables.roleAssignments link = world.remote link

/-- A manager previews a rule and saves it. The next link job grants the role to as many members as
the preview has counted, or to as many as the link holds. -/
theorem preview_foretells (state : AppState) (outside later : Outside)
    (tables previewed between saved : Tables) (headers editor : Headers) (link : Link)
    (body : RuleTreeBody) (tree : RuleTree) (version next : Int4) (matching linked : Nat)
    (parsed : parseRuleTree state.engines body = .ok tree)
    (counted : serve state outside tables headers (.roleConfigPreviewEdit link.1 link.2 body) =
      (.ok (.preview (.available matching linked)), previewed))
    (stored : serve state later between editor (.roleConfigSave link.1 link.2 ⟨version, body⟩) =
      (.ok (.saved next), saved))
    (world after : World) (basis : SameBasis outside tables saved tree link world)
    (completes : Completes state.engines (.configSync link) world after) :
    previewed = tables ∧ matching ≤ linked ∧
      (after.remote link).card = min (world.userLimit link) matching ∧
      after.tables.roleAssignments link = after.remote link := by
  obtain ⟨count, shown, answered⟩ := run_return_ok counted
  obtain ⟨number, ran, returned⟩ := run_return_ok stored
  cases answered
  cases returned
  have unchanged : previewed = tables :=
    (congrArg Prod.snd shown).symm.trans
      (run_reads state (along_reads state (roleConfigPreviewEdit_reads body)))
  have counting := roleConfigPreviewEdit_counts parsed shown
  have same : ruleOf saved link = some (tree, next) := roleConfigSave_stores parsed ran
  rw [← basis.rule] at same
  obtain ⟨row, found, rule⟩ := Option.map_eq_some_iff.mp same
  have read : RuleTree.ofColumn row.ruleTree.value = tree := congrArg Prod.fst rule
  obtain ⟨bound, ids, listed, rfl⟩ := previewCountFor_ok counting
    { world with tables := tables, now := outside.now } rfl rfl basis.members
  have moved : uncapped state.engines world (world.membersOf link.1) tree = .ok ids :=
    (uncapped_congr basis.users basis.stats basis.clock).trans listed
  obtain ⟨_, effect⟩ := serves_syncForRoleLink (link_completes completes)
  obtain ⟨all, qualified, granted, mirrored⟩ := effect row found basis.level
  rw [read] at qualified
  obtain rfl : ids = all := Except.ok.inj (moved.symm.trans qualified)
  refine ⟨unchanged, bound, ?_, mirrored.trans granted.symm⟩
  rw [granted, card_take (uncapped_ordered qualified)]

/-- The gateway calls every signed-in player a manager of a guild with two members. -/
def attended : Outside :=
  { Sample.alone 0 with
    guildPermission := fun _ _ => .ok ⟨200, "200 OK", "", .ok ⟨true, true⟩⟩
    guildMemberIds := fun _ => .ok ["1", "2"] }

/-- The player "1" has an account, and the link has no rule yet. -/
def unruled : Tables :=
  Sample.oneLink (Sample.roleLink "token" Sample.unconfigured) Sample.onePlayer Sample.onePlayer_distinct

/-- The database after the save. -/
def ruled : Tables :=
  (serve Sample.appState attended unruled Sample.signedIn
    (.roleConfigSave "guild" "role" ⟨.one, ⟨true, none, []⟩⟩)).2

def ruledWorld : World :=
  { Sample.grantingWorld "token" Sample.onePlayer Sample.onePlayer_distinct 100 with
    tables := ruled
    membersOf := fun _ => ["1", "2"] }

theorem one_player_foretold : ∃ previewed next, ∃ after : World,
    serve Sample.appState attended unruled Sample.signedIn
        (.roleConfigPreviewEdit "guild" "role" ⟨true, none, []⟩) =
      (.ok (.preview (.available 1 1)), previewed) ∧
    serve Sample.appState attended unruled Sample.signedIn
        (.roleConfigSave "guild" "role" ⟨.one, ⟨true, none, []⟩⟩) = (.ok (.saved next), ruled) ∧
    Completes Sample.letterEngines (.configSync Sample.link) ruledWorld after ∧
    (after.remote Sample.link).card = min 100 1 := by
  obtain ⟨previewed, counted⟩ : ∃ previewed,
      serve Sample.appState attended unruled Sample.signedIn
          (.roleConfigPreviewEdit "guild" "role" ⟨true, none, []⟩) =
        (.ok (.preview (.available 1 1)), previewed) := ⟨_, rfl⟩
  obtain ⟨next, stored⟩ : ∃ next,
      serve Sample.appState attended unruled Sample.signedIn
          (.roleConfigSave "guild" "role" ⟨.one, ⟨true, none, []⟩⟩) =
        (.ok (.saved next), ruled) := ⟨_, rfl⟩
  have synced : ∃ last ∈ EventRun.run (System.serve Sample.letterEngines)
      (System.alone Sample.letterEngines ruledWorld (.configSync Sample.link)) (List.replicate 7 0),
      last.quiet = true := by
    decide +kernel
  obtain ⟨last, ran, quiet⟩ := synced
  have completes : Completes Sample.letterEngines (.configSync Sample.link) ruledWorld last.world :=
    ⟨_, last, ran, quiet, rfl⟩
  have basis : SameBasis attended unruled ruled ⟨true, .osu, []⟩ Sample.link ruledWorld :=
    ⟨rfl, rfl, rfl, rfl, .inl rfl, rfl⟩
  have foretold := preview_foretells Sample.appState attended attended unruled previewed unruled ruled
    Sample.signedIn Sample.signedIn Sample.link ⟨true, none, []⟩ ⟨true, .osu, []⟩ .one next 1 1 rfl counted
    stored ruledWorld last.world basis completes
  exact ⟨previewed, next, last.world, counted, stored, completes, foretold.2.2.1⟩

end Foretold

end OsuPlayerRole.Web
