/-
This file shows what a served operation does to RoleLogic, to the mirror, and to the links.
-/
import OsuPlayerRole.Construction.Tasks.CleanRuns
import OsuPlayerRole.Proof.Sync.Exchange

namespace OsuPlayerRole

namespace Tables

/-- A stored link accepts any list of assignments. -/
theorem setAssignments_stored (tables : Tables) {link : Link}
    (stored : (tables.roleLinks.find link).isSome) (ids : Finset DiscordId) :
    ∃ after, tables.setAssignments link ids = .ok after ∧
      after.roleAssignments = Function.update tables.roleAssignments link ids ∧
      after.roleLinks = tables.roleLinks := by
  unfold setAssignments
  rw [dif_pos fun _ => stored]
  exact ⟨_, rfl, rfl, rfl⟩

/-- The mirror is written without a change of the links. -/
theorem setAssignments_links {tables after : Tables} {link : Link} {ids : Finset DiscordId}
    (set : tables.setAssignments link ids = .ok after) : after.roleLinks = tables.roleLinks := by
  unfold setAssignments at set
  split at set
  · cases set
    rfl
  · cases set

/-- The assignments of every other link stay. -/
theorem setAssignments_frame {tables after : Tables} {link other : Link} {ids : Finset DiscordId}
    (set : tables.setAssignments link ids = .ok after) (different : other ≠ link) :
    after.roleAssignments other = tables.roleAssignments other := by
  unfold setAssignments at set
  split at set
  · cases set
    exact Function.update_of_ne different ..
  · cases set

end Tables

namespace Sync

open Resumption Program RuleSql

variable {engines : Engines} {world : World} {operation : SyncOp}

/-- A clean step answers the operation of one thread with success. -/
theorem serve_cases {system after : System} {index : Nat}
    (stepped : system.serve engines index = some after) :
    ∃ front job operation next back value,
      system.threads = front ++ ⟨job, .call operation next⟩ :: back ∧
      system.threads[index]? = some ⟨job, .call operation next⟩ ∧
      (perform engines system.world operation).1 = .ok value ∧
      after.world = (perform engines system.world operation).2 ∧
      after.threads = front ++ (Thread.settled ⟨job, next (.ok value)⟩ ++ back) := by
  unfold System.serve at stepped
  split at stepped
  · next enabled =>
      obtain ⟨⟨traced, threads⟩, advanced, rfl⟩ := Option.map_eq_some_iff.mp stepped
      obtain ⟨front, job, operation, next, back, whole, found, world, remaining⟩ := advance_cases advanced
      rw [found] at enabled
      have succeeded : (perform engines system.world operation).1.isOk = true := enabled
      cases answer : (perform engines system.world operation).1 with
      | error error =>
          rw [answer] at succeeded
          cases succeeded
      | ok value =>
          refine ⟨front, job, operation, next, back, value, whole, found, answer, ?_, ?_⟩
          · exact congrArg Traced.world world
          · have same : (Traced.answer engines .served system.traced operation).1 = .ok value := answer
            rw [same] at remaining
            exact remaining
  · cases stepped

/-- A served RoleLogic call makes its update and no other. -/
def Part.onRemote (remote : Link → Finset DiscordId) : Part → Link → Finset DiscordId
  | .roleLogic link (some update) => Function.update remote link (update.apply (remote link))
  | _ => remote

/-- A statement sends nothing to RoleLogic. -/
theorem executed_remote (world : World) (tables : Except DbError Tables) :
    (executed world tables).2.remote = world.remote := by
  cases tables <;> rfl

/-- Only the calls of an operation change the lists of RoleLogic. -/
theorem perform_remote (engines : Engines) (world : World) (operation : SyncOp) :
    (perform engines world operation).2.remote = operation.part.onRemote world.remote := by
  cases operation <;> first | rfl | exact executed_remote world _

/-- Every RoleLogic call is accepted, and it leaves the database alone. -/
theorem perform_roleLogic (engines : Engines) (world : World) {link : Link} {update : Option Update}
    (part : operation.part = .roleLogic link update) :
    (∃ value, (perform engines world operation).1 = .ok value) ∧
      (perform engines world operation).2.tables = world.tables := by
  cases operation <;> first | cases part; done | exact ⟨⟨_, rfl⟩, rfl⟩

/-- An operation without a part of its own changes nothing. -/
theorem perform_other (part : operation.part = .other) :
    (perform engines world operation).2 = world := by
  cases operation <;> first | rfl | cases part

/-- The write to the mirror of a stored link succeeds. -/
theorem perform_mirror (engines : Engines) (world : World) {link : Link} {update : Update}
    (part : operation.part = .mirror link update)
    (stored : (world.tables.roleLinks.find link).isSome)
    (distinct : ∀ other ids, operation = .replaceAssignments other ids → ids.Nodup) :
    (∃ value, (perform engines world operation).1 = .ok value) ∧
      (perform engines world operation).2.tables.roleAssignments =
        Function.update world.tables.roleAssignments link
          (update.apply (world.tables.roleAssignments link)) := by
  have written : ∀ ids, (∃ value, (executed world (world.tables.setAssignments link ids)).1 =
        .ok value) ∧
      (executed world (world.tables.setAssignments link ids)).2.tables.roleAssignments =
        Function.update world.tables.roleAssignments link ids := by
    intro ids
    obtain ⟨after, set, assignments, _⟩ := world.tables.setAssignments_stored stored ids
    rw [set]
    exact ⟨⟨(), rfl⟩, assignments⟩
  cases operation with
  | insertAssignment other discordId =>
      cases part
      exact written _
  | deleteAssignment other discordId =>
      cases part
      exact written _
  | replaceAssignments other ids =>
      cases part
      have once := distinct link ids rfl
      change (∃ value, (executed world (replaceAssignments world.tables link ids)).1 = .ok value) ∧
        (executed world (replaceAssignments world.tables link ids)).2.tables.roleAssignments = _
      unfold replaceAssignments
      rw [if_pos once]
      exact written _
  | clearAssignments other =>
      cases part
      exact written _
  | _ => cases part

/-- A refused statement keeps the links as a served one does. -/
theorem executed_links {tables : Except DbError Tables}
    (kept : ∀ after, tables = .ok after → after.roleLinks = world.tables.roleLinks) :
    (executed world tables).2.tables.roleLinks = world.tables.roleLinks := by
  cases tables with
  | ok after => exact kept after rfl
  | error error => rfl

/-- Only the deletion of an orphan changes the stored links. -/
theorem perform_links (kept : ∀ link, operation.part ≠ .orphan link) :
    (perform engines world operation).2.tables.roleLinks = world.tables.roleLinks := by
  cases operation with
  | insertAssignment link discordId =>
      exact executed_links fun _ => Tables.setAssignments_links
  | deleteAssignment link discordId =>
      exact executed_links fun _ => Tables.setAssignments_links
  | clearAssignments link => exact executed_links fun _ => Tables.setAssignments_links
  | replaceAssignments link ids =>
      refine executed_links fun after replaced => ?_
      unfold replaceAssignments at replaced
      split at replaced
      · exact Tables.setAssignments_links replaced
      · cases replaced
  | deleteRoleLink link => exact absurd rfl (kept link)
  | _ => rfl

/-- A refused statement keeps the mirror of another link as a served one does. -/
theorem executed_frame {tables : Except DbError Tables} {other : Link}
    (kept : ∀ after, tables = .ok after →
      after.roleAssignments other = world.tables.roleAssignments other) :
    (executed world tables).2.tables.roleAssignments other = world.tables.roleAssignments other := by
  cases tables with
  | ok after => exact kept after rfl
  | error error => rfl

/-- A write to the mirror of one link leaves the assignments of every other link alone. -/
theorem perform_mirror_frame {link other : Link} {update : Update}
    (part : operation.part = .mirror link update) (different : other ≠ link) :
    (perform engines world operation).2.tables.roleAssignments other =
      world.tables.roleAssignments other := by
  cases operation with
  | insertAssignment target discordId =>
      cases part
      exact executed_frame fun _ set => Tables.setAssignments_frame set different
  | deleteAssignment target discordId =>
      cases part
      exact executed_frame fun _ set => Tables.setAssignments_frame set different
  | clearAssignments target =>
      cases part
      exact executed_frame fun _ set => Tables.setAssignments_frame set different
  | replaceAssignments target ids =>
      cases part
      refine executed_frame fun after replaced => ?_
      unfold replaceAssignments at replaced
      split at replaced
      · exact Tables.setAssignments_frame replaced different
      · cases replaced
  | _ => cases part

/-- Only the deletion of a link treats it as an orphan. -/
theorem deletes_of_orphan {link : Link} (part : operation.part = .orphan link) :
    operation = .deleteRoleLink link := by
  cases operation <;> cases part
  rfl

/-- The deletion of one link keeps the row of every other link. -/
theorem deleteRoleLink_find {tables : Tables} {link other : Link} (different : link ≠ other) :
    (deleteRoleLink tables link).roleLinks.find other = tables.roleLinks.find other := by
  change (tables.roleLinks.delete _).find other = _
  rw [KeyedTable.Table.find_delete]
  cases found : tables.roleLinks.find other with
  | none => rfl
  | some row =>
      have same := (KeyedTable.Table.find_eq_some.mp found).2
      rw [Option.filter_some, if_pos]
      rw [same]
      simpa using Ne.symm different

/-- The deletion of a link keeps the mirror of the others. -/
theorem deleteRoleLink_assignments {tables : Tables} {link other : Link} (different : link ≠ other) :
    (deleteRoleLink tables link).roleAssignments other = tables.roleAssignments other := by
  have kept : (tables.roleLinks.delete fun row => row.link = link).find other =
      tables.roleLinks.find other := deleteRoleLink_find different
  change (if _ then _ else _) = _
  rw [kept]
  split
  · rfl
  · next missing =>
      by_contra present
      exact missing (tables.assignmentsReference other (Ne.symm present))

/-- A list cut at its limit still names each user once. -/
theorem limited_nodup {listed : Except DbError (List DiscordId)} {userLimit : Nat}
    {ids : List DiscordId} (distinct : ∀ all, listed = .ok all → all.Nodup)
    (cut : (listed >>= limited userLimit) = .ok ids) : ids.Nodup := by
  obtain ⟨all, found, taken⟩ := Checked.bind_ok cut
  unfold limited at taken
  split at taken
  · cases taken
    exact (distinct all found).sublist (List.take_sublist _ _)
  · cases taken

/-- No linked member is listed twice. -/
theorem linkedIds_nodup {tables : Tables} {members ids : List DiscordId}
    (listed : linkedIds tables members = .ok ids) : ids.Nodup := by
  obtain ⟨_, _, returned⟩ := Checked.bind_ok listed
  cases returned
  exact OrderedSet.ordered_nodup _

/-- No qualifying member is listed twice. -/
theorem qualifyingIds_nodup {now : Timestamp} {tables : Tables} {mode : Mode}
    {members ids : List DiscordId} {clause : Where} {binds : List Bind}
    (listed : qualifyingIds engines now tables mode members clause binds = .ok ids) : ids.Nodup := by
  obtain ⟨_, _, filtered⟩ := Checked.bind_ok listed
  obtain ⟨kept, _, returned⟩ := Checked.bind_ok filtered
  cases returned
  exact OrderedSet.ordered_nodup _

/-- The served answers are plausible for every property of all stored links. -/
theorem plausible_perform {known : Link → Prop}
    (stored : ∀ link, (world.tables.roleLinks.find link).isSome → known link) :
    Plausible known operation (perform engines world operation).1 := by
  cases operation with
  | selectRoleLinks guildIds =>
      change Plausible known (.selectRoleLinks guildIds)
        ((selectRoleLinks world.tables guildIds).mapError _)
      cases listed : selectRoleLinks world.tables guildIds with
      | error error => trivial
      | ok rows =>
          intro row inside
          obtain ⟨_, _, returned⟩ := Checked.bind_ok listed
          cases returned
          obtain ⟨original, member, rfl⟩ := List.mem_map.mp inside
          have present := (List.mem_filter.mp member).1
          exact stored _ (KeyedTable.Table.find_isSome.mpr ⟨original, present, rfl⟩)
  | selectRoleLink link =>
      intro present
      rw [Option.isSome_map] at present
      exact stored link present
  | selectLinked members userLimit =>
      change Plausible known (.selectLinked members userLimit)
        ((linkedIds world.tables members >>= limited userLimit).mapError _)
      cases listed : linkedIds world.tables members >>= limited userLimit with
      | error error => trivial
      | ok ids => exact limited_nodup (fun _ => linkedIds_nodup) listed
  | selectQualifying mode members clause binds userLimit =>
      change Plausible known (.selectQualifying mode members clause binds userLimit)
        ((qualifyingIds engines world.now world.tables mode members clause binds >>=
          limited userLimit).mapError _)
      cases listed : qualifyingIds engines world.now world.tables mode members clause binds >>=
          limited userLimit with
      | error error => trivial
      | ok ids => exact limited_nodup (fun _ => qualifyingIds_nodup) listed
  | _ => trivial

/-- Any operation may fail. -/
theorem plausible_error {known : Link → Prop} (error : AppError) :
    Plausible known operation (.error error) := by
  cases operation <;> trivial

end Sync

end OsuPlayerRole
