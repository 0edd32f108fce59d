/-
This file shows when a run of `sync_for_role_link` repairs the list of RoleLogic.
-/
import OsuPlayerRole.Construction.Tasks.SerialSync
import OsuPlayerRole.Proof.Rule.RuleAgreement
import OsuPlayerRole.Proof.Sample
import OsuPlayerRole.Proof.Sync.ServedWorld

namespace OsuPlayerRole.Sync

open Resumption Program RuleSql

/-- The first members that qualify, in the order of their ids, as the reads of the job find them. -/
def desired (engines : Engines) (shifts : Shifts) (world : World) (link : Link) :
    Option (Except DbError (List DiscordId)) :=
  ((moment shifts world 0).tables.roleLinks.find link).map fun row =>
    (uncapped engines (moment shifts world 3) ((moment shifts world 1).membersOf link.1)
      (RuleTree.ofColumn row.ruleTree.value)).map
        (List.take ((moment shifts world 2).userLimit link))

section Amid

variable {engines : Engines} {shifts : Shifts} {world : World} {link : Link}

/-- The shifts leave RoleLogic, the mirror and the set of links alone. -/
def FactShifts (shifts : Shifts) : Prop := ∀ index world, FactsChange world (shifts index world)

/-- A change of the facts moves no list. -/
theorem listOf_shift (facts : FactShifts shifts) (index : Nat) (world : World) (link : Link) :
    listOf (shifts index world) link = listOf world link := by
  unfold listOf
  rw [(facts index world).assignments]

/-- A write to the mirror does not touch RoleLogic. -/
theorem mirror_remote (facts : FactShifts shifts) (world : World) (index : Nat)
    {operation : SyncOp} {update : Update} (part : operation.part = .mirror link update) :
    (run (servedAmid engines shifts) (world, index) (ask operation)).2.1.remote = world.remote := by
  rw [ask, run_ask]
  change (perform engines (shifts index world) operation).2.remote = _
  rw [perform_remote, part]
  exact (facts index world).remote

/-- An accepted upload decides the list of RoleLogic. -/
theorem upload_remote (world : World) (index : Nat) (ids : List DiscordId) (token : String)
    {written : SyncProgram Unit}
    (keeps : ∀ world index, (run (servedAmid engines shifts) (world, index) written).2.1.remote =
      world.remote) :
    (run (servedAmid engines shifts) (world, index)
      (result (.uploadUsers link ids token) >>= fun answer =>
        afterUpload link answer written)).2.1.remote link = ids.toFinset := by
  rw [run_bind, result, run_result]
  change (run (servedAmid engines shifts) _ written).2.1.remote link = _
  rw [keeps]
  exact Function.update_self ..

/-- A replacement writes the members unless the list already holds them. -/
theorem replaceList_remote (facts : FactShifts shifts) (world : World) (index : Nat) (token : String)
    (ids : List DiscordId) :
    (run (servedAmid engines shifts) (world, index) (replaceList link token ids)).2.1.remote link =
      if listOf world link = ids then world.remote link else ids.toFinset := by
  have current : servedAmid engines shifts (world, index) (.selectAssigned link) =
      (.ok (listOf world link), shifts index world, index + 1) := by
    rw [← listOf_shift facts index world link]
    rfl
  unfold replaceList
  rw [run_bind, ask, run_ask, current]
  dsimp only
  by_cases same : listOf world link = ids
  · rw [if_pos same, if_pos same]
    exact congrFun (facts index world).remote link
  · rw [if_neg same, if_neg same]
    exact upload_remote _ _ ids token fun _ _ => mirror_remote facts _ _ rfl

/-- Draining is the replacement by the empty list. -/
theorem drainToEmpty_remote (facts : FactShifts shifts) (world : World) (index : Nat)
    (token : String) :
    (run (servedAmid engines shifts) (world, index) (drainToEmpty link token)).2.1.remote link =
      if listOf world link = [] then world.remote link else ∅ := by
  have present : servedAmid engines shifts (world, index) (.existsAssigned link) =
      (.ok !(listOf world link).isEmpty, shifts index world, index + 1) := by
    rw [← listOf_shift facts index world link]
    rfl
  unfold drainToEmpty
  rw [run_bind, ask, run_ask, present]
  dsimp only
  cases listed : listOf world link with
  | nil =>
      rw [if_pos rfl]
      exact congrFun (facts index world).remote link
  | cons first rest =>
      rw [if_neg (List.cons_ne_nil first rest)]
      exact upload_remote _ _ [] token fun _ _ => mirror_remote facts _ _ rfl

/-- The query asks for exactly the uncut list of its moment, cut at the limit. -/
theorem qualifyingQuery_amid (engines : Engines) (shifts : Shifts) (world : World) (index : Nat)
    {members : List DiscordId} {tree : RuleTree}
    (configured : (!tree.grantOnAnyPlayer && tree.groups.isEmpty) = false)
    (present : members.isEmpty = false) (userLimit : Nat) :
    run (servedAmid engines shifts) (world, index) (qualifyingQuery tree members userLimit) =
      ((uncapped engines (shifts index world) members tree >>= limited userLimit).mapError .database,
        shifts index world, index + 1) := by
  unfold uncapped qualifyingQuery
  rw [configured, if_neg Bool.false_ne_true, present, if_neg Bool.false_ne_true]
  split
  · exact run_ask _ _ _
  · exact run_ask _ _ _

/-- A query and the replacement by its list, of which the query succeeded. -/
theorem queried_remote (facts : FactShifts shifts) (world : World) (index : Nat)
    {members : List DiscordId} {tree : RuleTree} {token : String} {userLimit : Nat}
    (configured : (!tree.grantOnAnyPlayer && tree.groups.isEmpty) = false)
    (present : members.isEmpty = false)
    (returned : (run (servedAmid engines shifts) (world, index)
      (qualifyingQuery tree members userLimit >>= replaceList link token)).1 = .ok ()) :
    ∃ all, uncapped engines (shifts index world) members tree = .ok all ∧
      (run (servedAmid engines shifts) (world, index)
        (qualifyingQuery tree members userLimit >>= replaceList link token)).2.1.remote link =
      if listOf world link = all.take userLimit then world.remote link
      else (all.take userLimit).toFinset := by
  have queried := qualifyingQuery_amid engines shifts world index configured
    present userLimit
  rw [run_bind, queried] at returned ⊢
  cases listed : uncapped engines (shifts index world) members tree with
  | error error =>
      rw [listed] at returned
      cases returned
  | ok all =>
      refine ⟨all, rfl, ?_⟩
      have cut : (.ok all >>= limited userLimit) = Except.ok (all.take userLimit) := by
        by_contra tooLarge
        have failed : (.ok all >>= limited userLimit) = Except.error DbError.negativeLimit := by
          change limited userLimit all = _
          change limited userLimit all ≠ _ at tooLarge
          unfold limited at tooLarge ⊢
          split at tooLarge
          · exact absurd rfl tooLarge
          · next large => exact if_neg large
        rw [listed, failed] at returned
        cases returned
      rw [cut]
      change (run (servedAmid engines shifts) (shifts index world, index + 1)
        (replaceList link token (all.take userLimit))).2.1.remote link = _
      rw [replaceList_remote facts, listOf_shift facts, (facts index world).remote]

theorem listOf_moment (facts : FactShifts shifts) (index : Nat) :
    listOf (moment shifts world index) link = listOf world link := by
  induction index with
  | zero => exact listOf_shift facts 0 world link
  | succ index ih => exact (listOf_shift facts _ _ link).trans ih

theorem remote_moment (facts : FactShifts shifts) (index : Nat) :
    (moment shifts world index).remote = world.remote := by
  induction index with
  | zero => exact (facts 0 world).remote
  | succ index ih => exact (facts _ _).remote.trans ih

/-- The reads of the job pick the drain or the query. -/
theorem syncAmid_eq (engines : Engines) {row : RoleLink} {tree : RuleTree} {members : List DiscordId}
    (found : (moment shifts world 0).tables.roleLinks.find link = some row)
    (stored : RuleTree.ofColumn row.ruleTree.value = tree)
    (listed : (moment shifts world 1).membersOf link.1 = members) :
    syncAmid engines shifts world link =
      if (!tree.grantOnAnyPlayer && tree.groups.isEmpty) = true then
        run (servedAmid engines shifts) (moment shifts world 0, 1) (drainToEmpty link row.apiToken)
      else if members.isEmpty = true then
        run (servedAmid engines shifts) (moment shifts world 1, 2) (drainToEmpty link row.apiToken)
      else run (servedAmid engines shifts) (moment shifts world 2, 3)
        (qualifyingQuery tree members ((moment shifts world 2).userLimit link) >>=
          replaceList link row.apiToken) := by
  subst stored listed
  have read : servedAmid engines shifts (world, 0) (.selectRoleLink link) =
      (.ok (some (linkRow row)), moment shifts world 0, 1) := by
    change (Except.ok (Option.map linkRow ((moment shifts world 0).tables.roleLinks.find link)),
      moment shifts world 0, 1) = _
    rw [found]
    rfl
  unfold syncAmid syncForRoleLink
  rw [run_bind, ask, run_ask, read]
  dsimp only
  split
  · exact (if_pos (by assumption)).symm
  · next configured =>
      rw [if_neg (by exact configured), run_bind, ask, run_ask]
      change run _ (moment shifts world 1, 2)
        (if ((moment shifts world 1).membersOf link.1).isEmpty = true then _ else _) = _
      split
      · rfl
      · rfl

/-- The job leaves the desired list, unless the mirror already shows that list. -/
theorem syncAmid_remote (facts : FactShifts shifts)
    (alive : ((moment shifts world 0).tables.roleLinks.find link).isSome)
    (returned : (syncAmid engines shifts world link).1 = .ok ()) :
    ∃ ids, desired engines shifts world link = some (.ok ids) ∧
      (syncAmid engines shifts world link).2.1.remote link =
        if listOf world link = ids then world.remote link else ids.toFinset := by
  obtain ⟨row, found⟩ := Option.isSome_iff_exists.mp alive
  have reads := syncAmid_eq engines found rfl rfl
  have wanted : desired engines shifts world link = some
      ((uncapped engines (moment shifts world 3) ((moment shifts world 1).membersOf link.1)
        (RuleTree.ofColumn row.ruleTree.value)).map
          (List.take ((moment shifts world 2).userLimit link))) := by
    rw [desired, found]
    rfl
  rw [wanted]
  by_cases unconfigured : (!(RuleTree.ofColumn row.ruleTree.value).grantOnAnyPlayer &&
      (RuleTree.ofColumn row.ruleTree.value).groups.isEmpty) = true
  · rw [if_pos unconfigured] at reads
    refine ⟨[], ?_, ?_⟩
    · rw [uncapped, if_pos unconfigured]
      exact congrArg (fun ids => some (Except.ok ids)) List.take_nil
    · rw [reads, drainToEmpty_remote facts, listOf_moment facts, remote_moment facts]
      rfl
  · rw [if_neg unconfigured] at reads
    by_cases nobody : ((moment shifts world 1).membersOf link.1).isEmpty = true
    · rw [if_pos nobody] at reads
      refine ⟨[], ?_, ?_⟩
      · rw [uncapped, if_neg unconfigured, if_pos nobody]
        exact congrArg (fun ids => some (Except.ok ids)) List.take_nil
      · rw [reads, drainToEmpty_remote facts, listOf_moment facts, remote_moment facts]
        rfl
    · rw [if_neg nobody] at reads
      rw [reads] at returned ⊢
      obtain ⟨all, listed, list⟩ := queried_remote facts _ _
        (Bool.eq_false_of_not_eq_true unconfigured) (Bool.eq_false_of_not_eq_true nobody) returned
      have asked : uncapped engines (moment shifts world 3)
          ((moment shifts world 1).membersOf link.1) (RuleTree.ofColumn row.ruleTree.value) =
          .ok all := listed
      refine ⟨all.take ((moment shifts world 2).userLimit link), ?_, ?_⟩
      · rw [asked]
        rfl
      · rw [list, listOf_moment facts, remote_moment facts]

end Amid

section Runs

variable (engines : Engines)

/-- A reconciled link is alive, the job returns without an error, and only facts change meanwhile. -/
def Undisturbed (world : World) : SerialEvent → Prop
  | .reconcile link shifts =>
      FactShifts shifts ∧ ((moment shifts world 0).tables.roleLinks.find link).isSome ∧
        (syncAmid engines shifts world link).1 = .ok ()
  | _ => True

/-- The job leaves the desired list in RoleLogic. -/
def Heals (world : World) : SerialEvent → Prop
  | .reconcile link shifts => ∃ ids, desired engines shifts world link = some (.ok ids) ∧
      (syncAmid engines shifts world link).2.1.remote link = ids.toFinset
  | _ => True

/-- A mirror that shows the desired list tells the truth about RoleLogic. -/
def Unfooled (world : World) : SerialEvent → Prop
  | .reconcile link shifts => ∀ ids, desired engines shifts world link = some (.ok ids) →
      listOf world link = ids → world.remote link = ids.toFinset
  | _ => True

variable {engines}

/-- One run of the job heals exactly when the mirror does not fool it. -/
theorem heals_iff_unfooled {world : World} {event : SerialEvent}
    (undisturbed : Undisturbed engines world event) :
    Heals engines world event ↔ Unfooled engines world event := by
  cases event with
  | reconcile link shifts =>
      obtain ⟨facts, alive, returned⟩ := undisturbed
      obtain ⟨ids, wanted, list⟩ := syncAmid_remote facts alive returned
      constructor
      · rintro ⟨others, same, healed⟩ answer answered shown
        obtain rfl := Except.ok.inj (Option.some.inj (same.symm.trans wanted))
        obtain rfl := Except.ok.inj (Option.some.inj (answered.symm.trans wanted))
        rw [list, if_pos shown] at healed
        exact healed
      · intro unfooled
        refine ⟨ids, wanted, ?_⟩
        rw [list]
        split
        · next shown => exact unfooled ids wanted shown
        · rfl
  | job dispatch moves => exact Iff.rfl
  | change after => exact Iff.rfl

/-- In every run of jobs that are executed one at a time, every reconciliation leaves the desired list
in RoleLogic exactly when no reconciliation finds that list in the mirror while RoleLogic holds
another one. -/
theorem reconcile_heals_iff_unfooled (engines : Engines) (world : World) (events : List SerialEvent)
    (undisturbed : EventRun.Guarded (serialStep engines) (Undisturbed engines) world events) :
    EventRun.Guarded (serialStep engines) (Heals engines) world events ↔
      EventRun.Guarded (serialStep engines) (Unfooled engines) world events := by
  exact EventRun.guarded_congr undisturbed fun _ _ lawful => heals_iff_unfooled lawful

end Runs

section Fooled

/-- A linked player is the only member of a guild whose link grants the role to every player. -/
def lonelyWorld : World :=
  Sample.grantingWorld "token" Sample.onePlayer Sample.onePlayer_distinct 100

/-- RoleLogic accepts the player, and the write to the mirror is lost. -/
def lostWrite : List Event :=
  List.replicate 5 (.advance 0 .served) ++ [.advance 0 (.refused (.database .unavailable))]

def lostWorld : World :=
  (serialStep Sample.letterEngines lonelyWorld (.job (.playerSync "1") lostWrite)).get
    (by decide +kernel)

/-- The lost write leads to the world it is meant to. -/
theorem lostWorld_reached :
    serialStep Sample.letterEngines lonelyWorld (.job (.playerSync "1") lostWrite) = some lostWorld :=
  (Option.some_get _).symm

/-- The player unlinks the account. -/
def unlinkedWorld : World :=
  { lostWorld with tables := lostWorld.tables.deleteOsuUsers fun user => user.discordId = "1" }

def fooling : List SerialEvent :=
  [.job (.playerSync "1") lostWrite, .change unlinkedWorld,
    .reconcile Sample.link fun _ world => world]

theorem steady_shifts : FactShifts fun _ world => world := fun _ _ => ⟨rfl, rfl, fun _ => rfl⟩

/-- The mirror is empty, as nobody qualifies, but RoleLogic still lists the player. -/
theorem reconcile_fooled :
    (∀ link, lonelyWorld.tables.roleAssignments link = lonelyWorld.remote link) ∧
      serialStep Sample.letterEngines lonelyWorld (.job (.playerSync "1") lostWrite) = some lostWorld ∧
      FactsChange lostWorld unlinkedWorld ∧
      EventRun.Guarded (serialStep Sample.letterEngines) (Undisturbed Sample.letterEngines) lonelyWorld
        fooling ∧
      ¬ EventRun.Guarded (serialStep Sample.letterEngines) (Heals Sample.letterEngines) lonelyWorld
        fooling := by
  have ran : EventRun.run (serialStep Sample.letterEngines) lonelyWorld
      [.job (.playerSync "1") lostWrite, .change unlinkedWorld] = some unlinkedWorld := by
    rw [EventRun.run_step lostWorld_reached]
    rfl
  refine ⟨fun _ => rfl, lostWorld_reached, ⟨rfl, rfl, fun _ => rfl⟩, ?_, fun healed => ?_⟩
  · refine ⟨trivial, fun _ _ => ⟨trivial, fun after changed => ⟨?_, fun _ _ => trivial⟩⟩⟩
    cases changed
    exact ⟨steady_shifts, by decide +kernel, by decide +kernel⟩
  · have split : fooling = [.job (.playerSync "1") lostWrite, .change unlinkedWorld] ++
        [.reconcile Sample.link fun _ world => world] := rfl
    rw [split] at healed
    obtain ⟨ids, wanted, list⟩ := EventRun.guarded_at healed ran
    have nobody : desired Sample.letterEngines (fun _ world => world) unlinkedWorld Sample.link =
        some (.ok []) := by decide +kernel
    obtain rfl := Except.ok.inj (Option.some.inj (nobody.symm.trans wanted))
    have listed : (syncAmid Sample.letterEngines (fun _ world => world) unlinkedWorld
        Sample.link).2.1.remote Sample.link = {"1"} := by decide +kernel
    rw [listed] at list
    exact absurd list (by decide)

/-- While the player still qualifies, the empty mirror does not fool the reconciliation. -/
theorem reconcile_heals_lost_write :
    EventRun.Guarded (serialStep Sample.letterEngines) (Heals Sample.letterEngines) lonelyWorld
      [.job (.playerSync "1") lostWrite, .reconcile Sample.link fun _ world => world] := by
  refine (reconcile_heals_iff_unfooled Sample.letterEngines lonelyWorld _ ?_).mpr ?_
  · refine ⟨trivial, fun after reached => ⟨?_, fun _ _ => trivial⟩⟩
    obtain rfl := Option.some.inj (lostWorld_reached.symm.trans reached)
    exact ⟨steady_shifts, by decide +kernel, by decide +kernel⟩
  · refine ⟨trivial, fun after reached => ⟨fun ids wanted shown => ?_, fun _ _ => trivial⟩⟩
    obtain rfl := Option.some.inj (lostWorld_reached.symm.trans reached)
    have player : desired Sample.letterEngines (fun _ world => world) lostWorld Sample.link =
        some (.ok ["1"]) := by decide +kernel
    obtain rfl := Except.ok.inj (Option.some.inj (player.symm.trans wanted))
    exact absurd shown (by decide +kernel)

end Fooled

end OsuPlayerRole.Sync
