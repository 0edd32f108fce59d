/-
This file shows what a link job without a failure does.
-/
import OsuPlayerRole.Proof.Rule.RuleAgreement
import OsuPlayerRole.Proof.Sync.OpenActions

namespace OsuPlayerRole.Sync

open Resumption Program RuleSql

section Alone

variable {engines : Engines} {job : Nat} {program : SyncProgram Unit} {indices : List Nat}

theorem serve_nil {system : System} (threads : system.threads = []) (index : Nat) :
    system.serve engines index = none := by
  unfold System.serve
  rw [threads]
  rfl

/-- A step of a program that is alone answers its operation. -/
theorem serve_alone {system after : System} {operation : SyncOp}
    {next : Except AppError operation.Value → SyncProgram Unit} {index : Nat}
    (threads : system.threads = (Thread.branch job (.call operation next)).settled)
    (stepped : system.serve engines index = some after) :
    ∃ value, (perform engines system.world operation).1 = .ok value ∧
      after.world = (perform engines system.world operation).2 ∧
      after.threads = (Thread.branch job (next (.ok value))).settled := by
  obtain ⟨front, owner, other, rest, back, value, whole, _, answered, world, remaining⟩ :=
    serve_cases stepped
  obtain ⟨rfl, late⟩ | ⟨_, impossible⟩ := List.append_eq_singleton_iff.mp (whole.symm.trans threads)
  · obtain ⟨same, rfl⟩ := List.cons_eq_cons.mp late
    cases same
    rw [List.nil_append, List.append_nil] at remaining
    exact ⟨value, answered, world, remaining⟩
  · cases impossible

/-- A job that runs alone to its end is a course of its program in which every operation is served. -/
theorem serves_of_run {system last : System}
    (threads : system.threads = (Thread.branch job program).settled)
    (ran : EventRun.run (System.serve engines) system indices = some last) (quiet : last.quiet = true) :
    Serves (perform engines) system.world program last.world := by
  have ended {start : System} {rest : List Nat} (none : start.threads = [])
      (went : EventRun.run (System.serve engines) start rest = some last) : last.world = start.world := by
    cases rest with
    | nil =>
        cases went
        rfl
    | cons index rest =>
        obtain ⟨after, stepped, _⟩ := EventRun.run_cons went
        rw [serve_nil none] at stepped
        cases stepped
  induction program generalizing system indices with
  | done value => exact ended threads ran
  | fail error => exact ended threads ran
  | call operation next ih =>
      cases indices with
      | nil =>
          cases ran
          rw [System.quiet, threads] at quiet
          cases quiet
      | cons index rest =>
          obtain ⟨after, stepped, remaining⟩ := EventRun.run_cons ran
          obtain ⟨value, answered, world, moved⟩ := serve_alone threads stepped
          exact ⟨value, answered, world ▸ ih (.ok value) moved remaining⟩

/-- What limits the operations of the program limits the steps of the job. -/
theorem guarded_of_along {system : System} {link : Link}
    (threads : system.threads = (Thread.branch job program).settled)
    (along : Along (perform engines) (fun _ operation => operation.written? ≠ some link) system.world
      program) :
    EventRun.Guarded (System.serve engines) (Spares link) system indices := by
  induction indices generalizing system program with
  | nil => trivial
  | cons index rest ih =>
      refine ⟨fun operation waits => ?_, fun after stepped => ?_⟩
      · obtain ⟨thread, found, head⟩ := Option.bind_eq_some_iff.mp waits
        have member := List.mem_of_getElem? found
        rw [threads] at member
        cases program with
        | call waiting next =>
            obtain rfl := List.mem_singleton.mp member
            cases head
            exact along.1
        | done value => exact absurd member List.not_mem_nil
        | fail error => exact absurd member List.not_mem_nil
      · cases program with
        | call waiting next =>
            obtain ⟨value, answered, world, moved⟩ := serve_alone threads stepped
            have remaining := along.2
            rw [answered, ← world] at remaining
            exact ih moved remaining
        | done value =>
            rw [serve_nil threads] at stepped
            cases stepped
        | fail error =>
            rw [serve_nil threads] at stepped
            cases stepped

end Alone

section Effect

variable {engines : Engines} {link : Link} {world after : World}

/-- The write of the mirror that follows an accepted replacement. -/
def Mirrors (link : Link) (ids : Finset DiscordId) (world after : World) : Prop :=
  LinkChange link world after ∧ after.tables.roleAssignments link = ids ∧ after.remote = world.remote

/-- A served clearing leaves the mirror of the link empty. -/
theorem serves_clear (serves : Serves (perform engines) world (ask (.clearAssignments link)) after) :
    Mirrors link ∅ world after := by
  obtain ⟨value, written, rfl⟩ := serves_ask serves
  exact executed_set written

/-- A served replacement leaves exactly the written members in the mirror of the link. -/
theorem serves_replaceAssignments {ids : List DiscordId}
    (serves : Serves (perform engines) world (ask (.replaceAssignments link ids)) after) :
    Mirrors link ids.toFinset world after := by
  obtain ⟨value, written, rfl⟩ := serves_ask serves
  change (executed world (replaceAssignments world.tables link ids)).1 = .ok value at written
  change Mirrors link ids.toFinset world (executed world (replaceAssignments world.tables link ids)).2
  unfold replaceAssignments at written ⊢
  split at written
  · next once =>
      rw [if_pos once]
      exact executed_set written
  · cases written

/-- RoleLogic and the mirror show the list of a full replacement. -/
theorem serves_upload {ids : List DiscordId} {token : String} {stored : SyncProgram Unit}
    (mirrors : ∀ other, Serves (perform engines) other stored after →
      Mirrors link ids.toFinset other after)
    (serves : Serves (perform engines) world
      (result (.uploadUsers link ids token) >>= fun answer => afterUpload link answer stored) after) :
    LinkChange link world after ∧ after.remote link = ids.toFinset ∧
      after.tables.roleAssignments link = ids.toFinset := by
  obtain ⟨count, _, rest⟩ := serves_result_bind serves
  obtain ⟨change, assigned, remote⟩ := mirrors _ rest
  refine ⟨(called_set world link ids.toFinset).trans change, ?_, assigned⟩
  rw [remote]
  exact Function.update_self ..

/-- A served drain empties the list of a link whose mirror was right. -/
theorem serves_drainToEmpty {token : String}
    (serves : Serves (perform engines) world (drainToEmpty link token) after) :
    LinkChange link world after ∧
      (world.tables.roleAssignments link = world.remote link →
        after.remote link = ∅ ∧ after.tables.roleAssignments link = ∅) := by
  obtain ⟨present, answered, rest⟩ := serves_ask_bind serves
  obtain rfl : (!(listOf world link).isEmpty) = present := Except.ok.inj answered
  split at rest
  · next absent =>
      obtain rfl : after = world := rest
      rw [Bool.not_not, List.isEmpty_iff, listOf, OrderedSet.ordered_eq_nil] at absent
      exact ⟨.refl link after, fun level => ⟨level.symm.trans absent, absent⟩⟩
  · obtain ⟨change, remote, assigned⟩ := serves_upload (fun _ => serves_clear) rest
    exact ⟨change, fun _ => ⟨remote, assigned⟩⟩

/-- The replacement by a list leaves exactly that list. -/
theorem serves_replaceList {token : String} {ids : List DiscordId}
    (serves : Serves (perform engines) world (replaceList link token ids) after) :
    LinkChange link world after ∧
      (world.tables.roleAssignments link = world.remote link →
        after.remote link = ids.toFinset ∧ after.tables.roleAssignments link = ids.toFinset) := by
  obtain ⟨current, answered, rest⟩ := serves_ask_bind serves
  obtain rfl : listOf world link = current := Except.ok.inj answered
  split at rest
  · next same =>
      obtain rfl : after = world := rest
      have shown : after.tables.roleAssignments link = ids.toFinset := by
        rw [← same, listOf, OrderedSet.toFinset_ordered]
      exact ⟨.refl link after, fun level => ⟨level.symm.trans shown, shown⟩⟩
  · obtain ⟨change, remote, assigned⟩ := serves_upload (fun _ => serves_replaceAssignments) rest
    exact ⟨change, fun _ => ⟨remote, assigned⟩⟩

/-- The capped list is the front of the list. -/
theorem limited_ok {limit : Nat} {all ids : List DiscordId} (cut : limited limit all = .ok ids) :
    ids = all.take limit := by
  unfold limited at cut
  split at cut
  · exact (Except.ok.inj cut).symm
  · cases cut

/-- A query that succeeds answers with the uncut list, cut at the limit. -/
theorem serves_qualifyingQuery {members : List DiscordId} {tree : RuleTree} {userLimit : Nat}
    {rest : List DiscordId → SyncProgram Unit}
    (configured : (!tree.grantOnAnyPlayer && tree.groups.isEmpty) = false)
    (present : members.isEmpty = false)
    (serves : Serves (perform engines) world (qualifyingQuery tree members userLimit >>= rest) after) :
    ∃ all, uncapped engines world members tree = .ok all ∧
      Serves (perform engines) world (rest (all.take userLimit)) after := by
  have queried : ∃ ids, (uncapped engines world members tree >>= limited userLimit) = .ok ids ∧
      Serves (perform engines) world (rest ids) after := by
    unfold uncapped
    unfold qualifyingQuery at serves
    rw [configured, if_neg Bool.false_ne_true, present, if_neg Bool.false_ne_true]
    split at serves
    · next granted =>
        obtain ⟨ids, answered, remaining⟩ := serves_ask_bind serves
        rw [if_pos granted]
        exact ⟨ids, answered_ok answered, remaining⟩
    · next plain =>
        obtain ⟨ids, answered, remaining⟩ := serves_ask_bind serves
        rw [if_neg plain]
        exact ⟨ids, answered_ok answered, remaining⟩
  obtain ⟨ids, cut, remaining⟩ := queried
  obtain ⟨all, listed, taken⟩ := Checked.bind_ok cut
  exact ⟨all, listed, limited_ok taken ▸ remaining⟩

/-- A link job without a failure changes its link alone, and it leaves the list that qualifies, cut at
the limit. -/
theorem serves_syncForRoleLink
    (serves : Serves (perform engines) world (syncForRoleLink link) after) :
    LinkChange link world after ∧
      ∀ row, world.tables.roleLinks.find link = some row →
        world.tables.roleAssignments link = world.remote link →
        ∃ all, uncapped engines world (world.membersOf link.1) (RuleTree.ofColumn row.ruleTree.value) =
            .ok all ∧
          after.remote link = (all.take (world.userLimit link)).toFinset ∧
          after.tables.roleAssignments link = (all.take (world.userLimit link)).toFinset := by
  obtain ⟨found, answered, rest⟩ := serves_ask_bind serves
  obtain rfl : (world.tables.roleLinks.find link).map linkRow = found := Except.ok.inj answered
  cases stored : world.tables.roleLinks.find link with
  | none =>
      rw [stored] at rest
      obtain rfl : after = world := rest
      exact ⟨.refl link after, fun row impossible => by cases impossible⟩
  | some row =>
      rw [stored] at rest
      change Serves (perform engines) world (if _ then _ else _) after at rest
      split at rest
      · next unconfigured =>
          obtain ⟨change, drained⟩ := serves_drainToEmpty rest
          refine ⟨change, fun other same level => ?_⟩
          obtain rfl := Option.some.inj same
          refine ⟨[], if_pos unconfigured, ?_⟩
          rw [List.take_nil]
          exact drained level
      · next configured =>
          obtain ⟨members, listed, remaining⟩ := serves_ask_bind rest
          obtain rfl : world.membersOf link.1 = members := Except.ok.inj listed
          split at remaining
          · next nobody =>
              obtain ⟨change, drained⟩ := serves_drainToEmpty remaining
              refine ⟨change, fun other same level => ?_⟩
              obtain rfl := Option.some.inj same
              refine ⟨[], ?_, ?_⟩
              · rw [uncapped, if_neg (by exact configured), if_pos nobody]
              · rw [List.take_nil]
                exact drained level
          · next somebody =>
              obtain ⟨info, informed, last⟩ := serves_result_bind remaining
              obtain rfl : ((world.remote link).card, world.userLimit link) = info :=
                Except.ok.inj informed
              obtain ⟨all, qualified, replaced⟩ := serves_qualifyingQuery
                (Bool.eq_false_of_not_eq_true configured) (Bool.eq_false_of_not_eq_true somebody) last
              obtain ⟨change, shown⟩ := serves_replaceList replaced
              refine ⟨change, fun other same level => ?_⟩
              obtain rfl := Option.some.inj same
              exact ⟨all, qualified, shown level⟩

/-- A link job that completes is a course of its program in which every operation is served. -/
theorem link_completes (completes : Completes engines (.configSync link) world after) :
    Serves (perform engines) world (syncForRoleLink link) after := by
  obtain ⟨indices, last, ran, quiet, rfl⟩ := completes
  exact @serves_of_run engines 0 (syncForRoleLink link) indices _ last rfl ran quiet

end Effect

section Writes

variable {engines : Engines} {link other : Link} {world : World}

/-- An operation that writes to no list writes to none of this link. -/
theorem silent {operation : SyncOp} (unwritten : operation.written? = none) :
    operation.written? ≠ some link := by
  rw [unwritten]
  exact nofun

/-- The job writes the list of its own link alone. -/
theorem syncForRoleLink_only (different : other ≠ link) :
    (syncForRoleLink other).Only fun operation => operation.written? ≠ some link := by
  have own {ids : List DiscordId} {token : String} :
      (SyncOp.uploadUsers other ids token).written? ≠ some link :=
    fun same => different (Option.some.inj same)
  have orphan : (deleteOrphanRoleLink other).Only fun operation => operation.written? ≠ some link :=
    only_bind (only_result (silent rfl)) fun _ => trivial
  have upload (answer : Except AppError Nat) {stored : SyncProgram Unit}
      (mirror : stored.Only fun operation => operation.written? ≠ some link) :
      (afterUpload other answer stored).Only fun operation => operation.written? ≠ some link := by
    unfold afterUpload
    split
    · exact mirror
    · exact orphan
    all_goals trivial
  have drain (token : String) :
      (drainToEmpty other token).Only fun operation => operation.written? ≠ some link := by
    refine only_bind (only_ask (silent rfl)) fun present => ?_
    split
    · trivial
    · exact only_bind (only_result own) fun answer => upload answer (only_ask (silent rfl))
  have replace (token : String) (ids : List DiscordId) :
      (replaceList other token ids).Only fun operation => operation.written? ≠ some link := by
    refine only_bind (only_ask (silent rfl)) fun current => ?_
    split
    · trivial
    · exact only_bind (only_result own) fun answer => upload answer (only_ask (silent rfl))
  refine only_bind (only_ask (silent rfl)) fun found => ?_
  cases found with
  | none => trivial
  | some row =>
      dsimp only
      split
      · exact drain row.apiToken
      · refine only_bind (only_ask (silent rfl)) fun members => ?_
        split
        · exact drain row.apiToken
        · refine only_bind (only_result (silent rfl)) fun answer => ?_
          split
          · exact orphan
          · trivial
          · trivial
          · refine only_bind ?_ fun ids => replace row.apiToken ids
            unfold qualifyingQuery
            split
            · exact only_ask (silent rfl)
            · exact only_ask (silent rfl)

/-- The uncut list is in the order of the mirror. -/
theorem uncapped_ordered {members ids : List DiscordId} {tree : RuleTree}
    (listed : uncapped engines world members tree = .ok ids) : OrderedSet.ordered ids.toFinset = ids := by
  have sorted (set : Finset DiscordId) :
      OrderedSet.ordered (OrderedSet.ordered set).toFinset = OrderedSet.ordered set := by
    rw [OrderedSet.toFinset_ordered]
  unfold uncapped at listed
  split_ifs at listed
  · cases listed
    rfl
  · cases listed
    rfl
  · obtain ⟨_, _, returned⟩ := Checked.bind_ok listed
    cases returned
    exact sorted _
  · obtain ⟨_, _, filtered⟩ := Checked.bind_ok listed
    obtain ⟨kept, _, returned⟩ := Checked.bind_ok filtered
    cases returned
    exact sorted _

/-- A drain of an empty link writes nothing. -/
theorem drainToEmpty_along {token : String} (empty : world.tables.roleAssignments link = ∅) :
    Along (perform engines) (fun _ operation => operation.written? ≠ some link) world
      (drainToEmpty link token) := by
  refine along_ask_bind (silent rfl) fun present answered => ?_
  obtain rfl : (!(listOf world link).isEmpty) = present := Except.ok.inj answered
  have absent : listOf world link = [] := by rw [listOf, OrderedSet.ordered_eq_nil, empty]
  rw [absent]
  trivial

/-- A link job that finds its list in the mirror does not write to RoleLogic. -/
theorem syncForRoleLink_along {row : RoleLink} {ids : List DiscordId}
    (stored : world.tables.roleLinks.find link = some row)
    (listed : uncapped engines world (world.membersOf link.1) (RuleTree.ofColumn row.ruleTree.value) =
      .ok ids)
    (within : ids.length ≤ world.userLimit link)
    (shown : world.tables.roleAssignments link = ids.toFinset) :
    Along (perform engines) (fun _ operation => operation.written? ≠ some link) world
      (syncForRoleLink link) := by
  refine along_ask_bind (silent rfl) fun found answered => ?_
  obtain rfl : (world.tables.roleLinks.find link).map linkRow = found := Except.ok.inj answered
  rw [stored]
  change Along _ _ world (if (!(RuleTree.ofColumn row.ruleTree.value).grantOnAnyPlayer &&
    (RuleTree.ofColumn row.ruleTree.value).groups.isEmpty) = true then _ else _)
  split
  · next unconfigured =>
      rw [uncapped, if_pos unconfigured] at listed
      cases listed
      exact drainToEmpty_along shown
  · next configured =>
      refine along_ask_bind (silent rfl) fun members answered => ?_
      obtain rfl : world.membersOf link.1 = members := Except.ok.inj answered
      split
      · next nobody =>
          rw [uncapped, if_neg (by exact configured), if_pos nobody] at listed
          cases listed
          exact drainToEmpty_along shown
      · next somebody =>
          have queried := qualifyingQuery_uncapped engines world
            (Bool.eq_false_of_not_eq_true configured) (Bool.eq_false_of_not_eq_true somebody)
            (world.userLimit link)
          refine along_result_bind (silent rfl) ?_
          change Along _ _ world (qualifyingQuery (RuleTree.ofColumn row.ruleTree.value)
            (world.membersOf link.1) (world.userLimit link) >>= replaceList link row.apiToken)
          refine along_bind ?_ fun cut after ran => ?_
          · unfold qualifyingQuery
            split
            · exact along_ask (silent rfl)
            · exact along_ask (silent rfl)
          · have same := ran.symm.trans queried
            rw [listed] at same
            obtain ⟨answer, still⟩ := Prod.mk.inj same
            rw [still]
            have taken : cut = ids := by
              have whole := limited_ok (Checked.mapError_ok.mp answer.symm)
              rwa [List.take_of_length_le within] at whole
            refine along_ask_bind (silent rfl) fun current answered => ?_
            obtain rfl : listOf world link = current := Except.ok.inj answered
            have level : listOf world link = cut := by
              rw [listOf, shown, uncapped_ordered listed, taken]
            rw [if_pos level]
            trivial

end Writes

end OsuPlayerRole.Sync
