/-
This file shows what each step of the actions of a player job does.
-/
import OsuPlayerRole.Proof.Sync.PlayerReading
import OsuPlayerRole.Proof.Sync.ServedWorld

namespace OsuPlayerRole.Sync

open Resumption Program KeyedTable

/-- An action of a job, before or after its call of RoleLogic. -/
structure Act where
  action : Action
  called : Bool

def Action.adds : Action → Bool
  | .add _ _ => true
  | .remove _ _ => false

/-- The list of a link with the verdict of one player. -/
def adjust (discordId : DiscordId) : Bool → Finset DiscordId → Finset DiscordId
  | true, ids => insert discordId ids
  | false, ids => ids.erase discordId

/-- The lists may change, and nothing that decides a verdict. -/
structure ListsChange (before after : World) : Prop where
  roleLinks : after.tables.roleLinks = before.tables.roleLinks
  osuUsers : after.tables.osuUsers = before.tables.osuUsers
  osuStats : after.tables.osuStats = before.tables.osuStats
  guildsOf : after.guildsOf = before.guildsOf
  membersOf : after.membersOf = before.membersOf
  userLimit : after.userLimit = before.userLimit
  now : after.now = before.now

/-- The lists of one link may change, and no others. -/
structure LinkChange (link : Link) (before after : World) : Prop where
  lists : ListsChange before after
  remote : ∀ other, other ≠ link → after.remote other = before.remote other
  assignments : ∀ other, other ≠ link →
    after.tables.roleAssignments other = before.tables.roleAssignments other

section Lists

variable {discordId : DiscordId} {world after last : World} {link : Link}

/-- The member is listed exactly with a positive verdict. -/
@[simp] theorem mem_adjust {qualified : Bool} {ids : Finset DiscordId} :
    discordId ∈ adjust discordId qualified ids ↔ qualified = true := by
  cases qualified with
  | true => exact iff_of_true (Finset.mem_insert_self _ _) rfl
  | false => exact iff_of_false (Finset.notMem_erase _ _) Bool.false_ne_true

/-- The other members stay as they are. -/
theorem mem_adjust_of_ne {qualified : Bool} {ids : Finset DiscordId} {other : DiscordId}
    (different : other ≠ discordId) : other ∈ adjust discordId qualified ids ↔ other ∈ ids := by
  cases qualified with
  | true => exact Finset.mem_insert.trans (or_iff_right different)
  | false => exact Finset.mem_erase.trans (and_iff_right different)

/-- A list with the verdict already is not changed, and no other list is. -/
theorem adjust_eq_self {qualified : Bool} {ids : Finset DiscordId} :
    adjust discordId qualified ids = ids ↔ (discordId ∈ ids ↔ qualified = true) := by
  constructor
  · intro same
    rw [← same]
    exact mem_adjust
  · intro level
    ext other
    by_cases same : other = discordId
    · subst same
      exact mem_adjust.trans level.symm
    · exact mem_adjust_of_ne same

/-- Nothing changes without a step. -/
theorem ListsChange.refl (world : World) : ListsChange world world := ⟨rfl, rfl, rfl, rfl, rfl, rfl, rfl⟩

/-- Two changes of the lists are one. -/
theorem ListsChange.trans (first : ListsChange world after) (second : ListsChange after last) :
    ListsChange world last where
  roleLinks := second.roleLinks.trans first.roleLinks
  osuUsers := second.osuUsers.trans first.osuUsers
  osuStats := second.osuStats.trans first.osuStats
  guildsOf := second.guildsOf.trans first.guildsOf
  membersOf := second.membersOf.trans first.membersOf
  userLimit := second.userLimit.trans first.userLimit
  now := second.now.trans first.now

/-- Nothing changes without a step. -/
theorem LinkChange.refl (link : Link) (world : World) : LinkChange link world world :=
  ⟨.refl world, fun _ _ => rfl, fun _ _ => rfl⟩

/-- Two changes about one link are one. -/
theorem LinkChange.trans (first : LinkChange link world after) (second : LinkChange link after last) :
    LinkChange link world last where
  lists := first.lists.trans second.lists
  remote other different := (second.remote other different).trans (first.remote other different)
  assignments other different :=
    (second.assignments other different).trans (first.assignments other different)

/-- The verdicts do not depend on the lists. -/
theorem ListsChange.meets (lists : ListsChange world after) (engines : Engines) (row : RoleLink) :
    meets engines discordId after row = Sync.meets engines discordId world row := by
  unfold Sync.meets satisfies
  rw [selectFacts_congr lists.osuUsers lists.osuStats, lists.osuUsers, lists.now]

/-- A write to the mirror of one link that succeeds changes nothing else. -/
theorem executed_set {ids : Finset DiscordId} {value : Unit}
    (written : (executed world (world.tables.setAssignments link ids)).1 = .ok value) :
    LinkChange link world (executed world (world.tables.setAssignments link ids)).2 ∧
      (executed world (world.tables.setAssignments link ids)).2.tables.roleAssignments link = ids ∧
      (executed world (world.tables.setAssignments link ids)).2.remote = world.remote := by
  unfold Tables.setAssignments at written ⊢
  split at written
  · next reference =>
      rw [dif_pos reference]
      refine ⟨⟨⟨rfl, rfl, rfl, rfl, rfl, rfl, rfl⟩, fun _ _ => rfl, fun other different => ?_⟩, ?_, rfl⟩
      · exact Function.update_of_ne different ..
      · exact Function.update_self ..
  · cases written

/-- A call of RoleLogic changes the list of its link alone. -/
theorem called_set (world : World) (link : Link) (ids : Finset DiscordId) :
    LinkChange link world { world with remote := Function.update world.remote link ids } :=
  ⟨⟨rfl, rfl, rfl, rfl, rfl, rfl, rfl⟩, fun _ different => Function.update_of_ne different ..,
    fun _ _ => rfl⟩

end Lists

section Acts

variable {engines : Engines} {discordId : DiscordId} {world after : World}
  {front back left : List Act} {act : Act}

/-- What remains of the action. -/
def Act.program (discordId : DiscordId) : Act → SyncProgram Unit
  | ⟨action, false⟩ => performAction discordId action
  | ⟨.add link _, true⟩ => do
      let _ ← result (.insertAssignment link discordId)
      return ()
  | ⟨.remove link _, true⟩ => do
      let _ ← result (.deleteAssignment link discordId)
      return ()

def Act.thread (discordId : DiscordId) (job : Nat) (act : Act) : SyncThread :=
  .branch job (act.program discordId)

/-- The planned actions become threads that have not made their calls. -/
theorem settled_actions (job : Nat) (actions : List Action) :
    (⟨job, .done (actions.map (performAction discordId))⟩ : SyncThread).settled =
      (actions.map fun action => (⟨action, false⟩ : Act)).map (Act.thread discordId job) := by
  simp only [Thread.settled, List.map_map]
  rfl

/-- An action makes its call, and then its write to the mirror. -/
structure Acted (discordId : DiscordId) (world after : World) (act : Act) (left : List Act) : Prop where
  change : LinkChange act.action.link world after
  effect : (left = [⟨act.action, true⟩] ∧ act.called = false ∧
      after.remote act.action.link =
        adjust discordId act.action.adds (world.remote act.action.link) ∧
      after.tables.roleAssignments = world.tables.roleAssignments) ∨
    (left = [] ∧ act.called = true ∧ after.remote = world.remote ∧
      after.tables.roleAssignments act.action.link =
        adjust discordId act.action.adds (world.tables.roleAssignments act.action.link))

/-- A served operation of an action moves it on. -/
theorem acted_of_step {job : Nat} {operation : SyncOp} {value : operation.Value}
    {next : Except AppError operation.Value → SyncProgram (List (SyncProgram Unit))}
    (waits : (act.thread discordId job).program = .call operation next)
    (succeeded : (perform engines world operation).1 = .ok value) :
    ∃ left : List Act, (⟨job, next (.ok value)⟩ : SyncThread).settled = left.map (Act.thread discordId job) ∧
      Acted discordId world (perform engines world operation).2 act left := by
  obtain ⟨action, called⟩ := act
  cases action with
  | add link token =>
      cases called with
      | false =>
          cases waits
          refine ⟨[⟨.add link token, true⟩], rfl, called_set world link _, Or.inl ⟨rfl, rfl, ?_, rfl⟩⟩
          exact Function.update_self ..
      | true =>
          cases waits
          obtain ⟨change, assigned, remote⟩ := @executed_set world link _ _ succeeded
          exact ⟨[], rfl, change, Or.inr ⟨rfl, rfl, remote, assigned⟩⟩
  | remove link token =>
      cases called with
      | false =>
          cases waits
          refine ⟨[⟨.remove link token, true⟩], rfl, called_set world link _, Or.inl ⟨rfl, rfl, ?_, rfl⟩⟩
          exact Function.update_self ..
      | true =>
          cases waits
          obtain ⟨change, assigned, remote⟩ := @executed_set world link _ _ succeeded
          exact ⟨[], rfl, change, Or.inr ⟨rfl, rfl, remote, assigned⟩⟩

/-- What is left of an action is about the same correction. -/
theorem acted_link (acted : Acted discordId world after act left) :
    ∀ other ∈ left, other.action = act.action := by
  obtain ⟨rfl, _⟩ | ⟨rfl, _⟩ := acted.effect
  · intro other member
    rw [List.mem_singleton.mp member]
  · intro other member
    exact absurd member List.not_mem_nil

/-- The links of the actions stay different. -/
theorem acted_nodup (acted : Acted discordId world after act left)
    (distinct : ((front ++ act :: back).map fun act => act.action.link).Nodup) :
    ((front ++ (left ++ back)).map fun act => act.action.link).Nodup := by
  obtain ⟨rfl, _⟩ | ⟨rfl, _⟩ := acted.effect
  · simpa using distinct
  · refine distinct.sublist (List.Sublist.map _ ?_)
    exact List.Sublist.append (List.Sublist.refl _) (List.sublist_cons_self _ _)

/-- The other actions are for other links. -/
theorem others_apart (distinct : ((front ++ act :: back).map fun act => act.action.link).Nodup) :
    ∀ other ∈ front ++ back, other.action.link ≠ act.action.link := by
  intro other member same
  rw [List.map_append, List.map_cons, List.nodup_middle, List.nodup_cons, ← List.map_append] at distinct
  exact distinct.1 (List.mem_map.mpr ⟨other, member, same⟩)

/-- The other actions are among all of them. -/
theorem mem_middle_of_mem {other : Act} (member : other ∈ front ++ back) : other ∈ front ++ act :: back := by
  obtain early | late := List.mem_append.mp member
  · exact List.mem_append_left _ early
  · exact List.mem_append_right _ (List.mem_cons_of_mem _ late)

/-- An open action is left of the one that moved, or it is another one. -/
theorem mem_acted {other : Act} (member : other ∈ front ++ (left ++ back)) :
    other ∈ left ∨ other ∈ front ++ back := by
  obtain early | later := List.mem_append.mp member
  · exact Or.inr (List.mem_append_left _ early)
  · obtain fresh | late := List.mem_append.mp later
    · exact Or.inl fresh
    · exact Or.inr (List.mem_append_right _ late)

/-- The action for the link is open, or the link is closed. -/
def Course (link : Link) (acts : List Act) (opened : Act → Prop) (closed : Prop) : Prop :=
  (∀ act ∈ acts, act.action.link = link → opened act) ∧
    ((∀ act ∈ acts, act.action.link ≠ link) → closed)

/-- An action decides the course of its own link, and leaves the course of every other link alone. -/
theorem course_acted {link : Link} {opened moved : Act → Prop} {closed ended : Prop}
    (acted : Acted discordId world after act left)
    (distinct : ((front ++ act :: back).map fun act => act.action.link).Nodup)
    (elsewhere : link ≠ act.action.link → (∀ other, opened other → moved other) ∧ (closed → ended))
    (here : act.action.link = link → opened act → (∀ other ∈ left, moved other) ∧ (left = [] → ended))
    (course : Course link (front ++ act :: back) opened closed) :
    Course link (front ++ (left ++ back)) moved ended := by
  have inside : act ∈ front ++ act :: back := List.mem_append_right _ List.mem_cons_self
  by_cases same : act.action.link = link
  · obtain ⟨going, done⟩ := here same (course.1 act inside same)
    refine ⟨fun other member target => ?_, fun untouched => done ?_⟩
    · obtain fresh | old := mem_acted member
      · exact going other fresh
      · exact absurd (target.trans same.symm) (others_apart distinct other old)
    · rw [List.eq_nil_iff_forall_not_mem]
      intro other fresh
      refine untouched other (List.mem_append_right _ (List.mem_append_left _ fresh)) ?_
      rw [acted_link acted other fresh, same]
  · obtain ⟨going, done⟩ := elsewhere (Ne.symm same)
    refine ⟨fun other member target => ?_, fun untouched => done (course.2 fun other member target => ?_)⟩
    · obtain fresh | old := mem_acted member
      · exact absurd (acted_link acted other fresh ▸ target) same
      · exact going other (course.1 other (mem_middle_of_mem old) target)
    · obtain early | later := List.mem_append.mp member
      · exact untouched other (List.mem_append_left _ early) target
      · obtain rfl | late := List.mem_cons.mp later
        · exact same target
        · exact untouched other (List.mem_append_right _ (List.mem_append_right _ late)) target

/-- A correction moves the member to the side of the verdict. -/
theorem correctionOf_some {row : RoleLink} {qualified assigned : Bool} {action : Action}
    (corrected : correctionOf row qualified assigned = some action) :
    action.link = row.link ∧ action.adds = qualified ∧ assigned ≠ qualified := by
  cases qualified <;> cases assigned <;> cases corrected <;> exact ⟨rfl, rfl, by decide⟩

/-- Without a correction the mirror shows the verdict. -/
theorem correctionOf_none {row : RoleLink} {qualified assigned : Bool}
    (corrected : correctionOf row qualified assigned = none) : assigned = qualified := by
  cases qualified <;> cases assigned <;> first | rfl | cases corrected

/-- The links have different names. -/
theorem row_of_link {row other : RoleLink} (inside : row ∈ world.tables.roleLinks.rows)
    (otherInside : other ∈ linksOf discordId world) (same : row.link = other.link) : row = other :=
  world.tables.roleLinks.eq_of_key inside (List.mem_filter.mp otherInside).1 same

/-- Each link of the player is listed once. -/
theorem links_nodup : ((linksOf discordId world).map RoleLink.link).Nodup :=
  world.tables.roleLinks.unique.sublist (List.filter_sublist.map _)

/-- The wanted actions are the corrections of the links of the player. -/
theorem course_wanted {row : RoleLink} {opened : Act → Prop} {closed : Prop}
    (stored : row ∈ world.tables.roleLinks.rows)
    (going : ∀ action, row ∈ linksOf discordId world →
      correction engines discordId world row = some action → opened ⟨action, false⟩)
    (still : (row ∈ linksOf discordId world → correction engines discordId world row = none) → closed) :
    Course row.link ((wanted engines discordId world).map fun action => ⟨action, false⟩) opened closed := by
  refine ⟨fun act member same => ?_, fun untouched => still fun inside => ?_⟩
  · obtain ⟨action, chosen, rfl⟩ := List.mem_map.mp member
    obtain ⟨other, otherInside, corrected⟩ := List.mem_filterMap.mp chosen
    have target : row.link = other.link := same.symm.trans (correctionOf_some corrected).1
    obtain rfl := row_of_link stored otherInside target
    exact going action otherInside corrected
  · cases corrected : correction engines discordId world row with
    | none => rfl
    | some action =>
        have chosen : action ∈ wanted engines discordId world :=
          List.mem_filterMap.mpr ⟨row, inside, corrected⟩
        exact absurd (correctionOf_some corrected).1 (untouched _ (List.mem_map_of_mem chosen))

end Acts

end OsuPlayerRole.Sync
