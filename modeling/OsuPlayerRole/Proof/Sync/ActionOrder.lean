/-
This file shows that operations on different links may be interchanged, whatever they answer.
-/
import OsuPlayerRole.Proof.Sync.Turns

namespace OsuPlayerRole.Sync

open Resumption Program RoleLogic KeyedTable

/-- One link in RoleLogic, in the mirror, and among the stored links. -/
@[ext] structure View where
  users : Finset DiscordId
  ids : Finset DiscordId
  stored : Bool

def World.view (world : World) (link : Link) : View :=
  ⟨world.remote link, world.tables.roleAssignments link, (world.tables.roleLinks.find link).isSome⟩

/-- Nothing but the links and their lists changes. -/
structure KeepsRest (before after : World) : Prop where
  guildSettings : after.tables.guildSettings = before.tables.guildSettings
  osuUsers : after.tables.osuUsers = before.tables.osuUsers
  osuStats : after.tables.osuStats = before.tables.osuStats
  jobs : after.tables.jobs = before.tables.jobs
  jobSequence : after.tables.jobSequence = before.tables.jobSequence
  osuOauthStates : after.tables.osuOauthStates = before.tables.osuOauthStates
  guildsOf : after.guildsOf = before.guildsOf
  membersOf : after.membersOf = before.membersOf
  userLimit : after.userLimit = before.userLimit
  now : after.now = before.now

/-- One link gets this view, and nothing else changes. A link that is not stored has no row. -/
structure Becomes (link : Link) (view : View) (before after : World) : Prop where
  remote : after.remote = Function.update before.remote link view.users
  assignments : after.tables.roleAssignments =
    Function.update before.tables.roleAssignments link view.ids
  links : after.tables.roleLinks.rows =
    before.tables.roleLinks.rows.filter fun row => decide (row.link ≠ link) || view.stored
  rest : KeepsRest before after

/-- The operation looks at one link and changes that link alone. It does not store a link. -/
def Local {A : Type} (link : Link) (operation : World → A × World) : Prop :=
  ∃ decision : View → A × View, ∀ world,
    (operation world).1 = (decision (world.view link)).1 ∧
      Becomes link (decision (world.view link)).2 world (operation world).2 ∧
      ((decision (world.view link)).2.stored = true → (world.view link).stored = true)

section Views

variable {link other : Link} {view next : View} {before after last : World}

/-- Nothing changes without a step. -/
theorem KeepsRest.refl (world : World) : KeepsRest world world :=
  ⟨rfl, rfl, rfl, rfl, rfl, rfl, rfl, rfl, rfl, rfl⟩

/-- What two steps keep, both together keep. -/
theorem KeepsRest.trans (first : KeepsRest before after) (second : KeepsRest after last) :
    KeepsRest before last where
  guildSettings := second.guildSettings.trans first.guildSettings
  osuUsers := second.osuUsers.trans first.osuUsers
  osuStats := second.osuStats.trans first.osuStats
  jobs := second.jobs.trans first.jobs
  jobSequence := second.jobSequence.trans first.jobSequence
  osuOauthStates := second.osuOauthStates.trans first.osuOauthStates
  guildsOf := second.guildsOf.trans first.guildsOf
  membersOf := second.membersOf.trans first.membersOf
  userLimit := second.userLimit.trans first.userLimit
  now := second.now.trans first.now

/-- The links, the lists, and the rest make up the whole world. -/
theorem KeepsRest.eq {base : World} (first : KeepsRest base before) (second : KeepsRest base after)
    (remote : before.remote = after.remote)
    (assignments : before.tables.roleAssignments = after.tables.roleAssignments)
    (links : before.tables.roleLinks.rows = after.tables.roleLinks.rows) : before = after := by
  have tables : before.tables = after.tables := by
    refine Tables.ext (Table.ext links) assignments ?_ ?_ ?_ ?_ ?_ ?_
    · exact first.guildSettings.trans second.guildSettings.symm
    · exact first.osuUsers.trans second.osuUsers.symm
    · exact first.osuStats.trans second.osuStats.symm
    · exact first.jobs.trans second.jobs.symm
    · exact first.jobSequence.trans second.jobSequence.symm
    · exact first.osuOauthStates.trans second.osuOauthStates.symm
  refine World.ext tables remote ?_ ?_ ?_ ?_
  · exact first.guildsOf.trans second.guildsOf.symm
  · exact first.membersOf.trans second.membersOf.symm
  · exact first.userLimit.trans second.userLimit.symm
  · exact first.now.trans second.now.symm

/-- A link without a row has nothing to filter. -/
theorem rows_kept (world : World) (link : Link) :
    (world.tables.roleLinks.rows.filter fun row => decide (row.link ≠ link) || (world.view link).stored) =
      world.tables.roleLinks.rows := by
  refine List.filter_eq_self.mpr fun row inside => ?_
  by_cases same : row.link = link
  · have present : (world.view link).stored = true := Table.find_isSome.mpr ⟨row, inside, same⟩
    rw [present, Bool.or_true]
  · rw [decide_eq_true same, Bool.true_or]

/-- A link that keeps its view changes nothing. -/
theorem becomes_self (world : World) (link : Link) : Becomes link (world.view link) world world where
  remote := (Function.update_eq_self link world.remote).symm
  assignments := (Function.update_eq_self link world.tables.roleAssignments).symm
  links := (rows_kept world link).symm
  rest := .refl world

/-- A link is stored exactly when it has a row. -/
theorem stored_iff (world : World) (link : Link) :
    (world.view link).stored = true ↔ ∃ row ∈ world.tables.roleLinks.rows, row.link = link :=
  Table.find_isSome

/-- Only the link of a step can lose its row. -/
theorem becomes_stored (becomes : Becomes link view before after) (wanted : Link) :
    (after.view wanted).stored = true ↔
      (before.view wanted).stored = true ∧ (wanted ≠ link ∨ view.stored = true) := by
  rw [stored_iff, stored_iff, becomes.links]
  constructor
  · rintro ⟨row, inside, rfl⟩
    obtain ⟨member, kept⟩ := List.mem_filter.mp inside
    rw [Bool.or_eq_true, decide_eq_true_iff] at kept
    exact ⟨⟨row, member, rfl⟩, kept⟩
  · rintro ⟨⟨row, member, rfl⟩, kept⟩
    refine ⟨row, List.mem_filter.mpr ⟨member, ?_⟩, rfl⟩
    rw [Bool.or_eq_true, decide_eq_true_iff]
    exact kept

/-- A step gives its link the new view. -/
theorem becomes_view (becomes : Becomes link view before after)
    (kept : view.stored = true → (before.view link).stored = true) : after.view link = view := by
  refine View.ext ?_ ?_ (Bool.eq_iff_iff.mpr ?_)
  · exact (congrFun becomes.remote link).trans (Function.update_self ..)
  · exact (congrFun becomes.assignments link).trans (Function.update_self ..)
  · rw [becomes_stored becomes]
    constructor
    · rintro ⟨_, different | stored⟩
      · exact absurd rfl different
      · exact stored
    · intro stored
      exact ⟨kept stored, Or.inr stored⟩

/-- A step leaves the view of another link. -/
theorem becomes_other (becomes : Becomes link view before after) (different : other ≠ link) :
    after.view other = before.view other := by
  refine View.ext ?_ ?_ (Bool.eq_iff_iff.mpr ?_)
  · exact (congrFun becomes.remote other).trans (Function.update_of_ne different ..)
  · exact (congrFun becomes.assignments other).trans (Function.update_of_ne different ..)
  · rw [becomes_stored becomes]
    exact and_iff_left (Or.inl different)

/-- The second change of a link covers the first one. -/
theorem becomes_trans (first : Becomes link view before after) (second : Becomes link next after last)
    (kept : next.stored = true → view.stored = true) : Becomes link next before last where
  remote := by rw [second.remote, first.remote, Function.update_idem]
  assignments := by rw [second.assignments, first.assignments, Function.update_idem]
  links := by
    rw [second.links, first.links, List.filter_filter]
    refine List.filter_congr fun row _ => ?_
    cases stored : next.stored with
    | true => rw [kept stored, Bool.or_true, Bool.and_self]
    | false =>
        rw [Bool.or_false]
        cases decide (row.link ≠ link) <;> rfl
  rest := first.rest.trans second.rest

/-- Changes of different links may be made in either order. -/
theorem becomes_swap {middle swapped : World} (different : link ≠ other)
    (first : Becomes link view before middle) (second : Becomes other next middle after)
    (early : Becomes other next before swapped) (late : Becomes link view swapped last) : after = last := by
  refine KeepsRest.eq (first.rest.trans second.rest) (early.rest.trans late.rest) ?_ ?_ ?_
  · rw [second.remote, first.remote, late.remote, early.remote, Function.update_comm different]
  · rw [second.assignments, first.assignments, late.assignments, early.assignments,
      Function.update_comm different]
  · rw [second.links, first.links, late.links, early.links, List.filter_comm]

/-- Two steps about different links can change places. -/
theorem local_swap {A B : Type} {first : World → A × World} {second : World → B × World}
    (different : link ≠ other) (left : Local link first) (right : Local other second) (world : World) :
    (second (first world).2).1 = (second world).1 ∧ (first (second world).2).1 = (first world).1 ∧
      (second (first world).2).2 = (first (second world).2).2 := by
  obtain ⟨decision, leftLocal⟩ := left
  obtain ⟨choice, rightLocal⟩ := right
  have seen := becomes_other (leftLocal world).2.1 (Ne.symm different)
  have shown := becomes_other (rightLocal world).2.1 different
  refine ⟨?_, ?_, ?_⟩
  · rw [(rightLocal _).1, seen, ← (rightLocal world).1]
  · rw [(leftLocal _).1, shown, ← (leftLocal world).1]
  · have later := (rightLocal (first world).2).2.1
    have last := (leftLocal (second world).2).2.1
    rw [seen] at later
    rw [shown] at last
    exact becomes_swap different (leftLocal world).2.1 later (rightLocal world).2.1 last

end Views

section Operations

variable {engines : Engines} {crates : Crates} {turn : Turn} {link : Link} {operation : SyncOp}

/-- A call reads and changes the list in RoleLogic. -/
theorem called_local {A : Type} (call : Calls A) :
    Local link fun world => called turn world link call := by
  refine ⟨fun view =>
    ((run (handle turn.handling) (⟨view.users, []⟩, 0) call).1,
      { view with users := (run (handle turn.handling) (⟨view.users, []⟩, 0) call).2.1.users }),
    fun world => ⟨rfl, ⟨rfl, ?_, ?_, ⟨rfl, rfl, rfl, rfl, rfl, rfl, rfl, rfl, rfl, rfl⟩⟩, id⟩⟩
  · exact (Function.update_eq_self link world.tables.roleAssignments).symm
  · exact (rows_kept world link).symm

/-- A failed statement changes nothing. -/
theorem failure_local {A : Type} (answer : A) : Local link fun world => (answer, world) :=
  ⟨fun view => (answer, view), fun world => ⟨rfl, becomes_self world link, id⟩⟩

/-- A stored link accepts any list, and another link accepts the empty list alone. -/
def Accepts (view : View) (ids : Finset DiscordId) : Prop := ids ≠ ∅ → view.stored = true

/-- The mirror of a stored link is written. -/
theorem set_accepted {world : World} {ids : Finset DiscordId} (accepts : Accepts (world.view link) ids) :
    ∃ tables, world.tables.setAssignments link ids = .ok tables ∧
      Becomes link { world.view link with ids := ids } world { world with tables } := by
  refine ⟨_, dif_pos accepts, ⟨?_, rfl, ?_, ⟨rfl, rfl, rfl, rfl, rfl, rfl, rfl, rfl, rfl, rfl⟩⟩⟩
  · exact (Function.update_eq_self link world.remote).symm
  · exact (rows_kept world link).symm

/-- The mirror of a link that is gone is refused by its foreign key. -/
theorem set_rejected {world : World} {ids : Finset DiscordId} (rejects : ¬Accepts (world.view link) ids) :
    world.tables.setAssignments link ids =
      .error (.foreignKeyViolation "role_assignments_guild_id_role_id_fkey") := dif_neg rejects

open Classical in
/-- A write of the mirror is about its link alone. -/
theorem executed_local (change : Finset DiscordId → Finset DiscordId) :
    Local link fun world =>
      executed world (world.tables.setAssignments link (change (world.tables.roleAssignments link))) := by
  refine ⟨fun view => if Accepts view (change view.ids) then (.ok (), { view with ids := change view.ids })
    else (.error (.database (.foreignKeyViolation "role_assignments_guild_id_role_id_fkey")), view),
    fun world => ?_⟩
  dsimp only
  by_cases accepts : Accepts (world.view link) (change (world.view link).ids)
  · obtain ⟨tables, set, becomes⟩ := set_accepted accepts
    rw [if_pos accepts, show world.tables.setAssignments link
      (change (world.tables.roleAssignments link)) = .ok tables from set]
    exact ⟨rfl, becomes, id⟩
  · rw [if_neg accepts, show world.tables.setAssignments link
      (change (world.tables.roleAssignments link)) = .error _ from set_rejected accepts]
    exact ⟨rfl, becomes_self world link, id⟩

/-- A deletion leaves its link without a row and without assignments. -/
theorem deleteRoleLink_becomes (world : World) (link : Link) :
    Becomes link { world.view link with ids := ∅, stored := false } world
      { world with tables := deleteRoleLink world.tables link } where
  remote := (Function.update_eq_self link world.remote).symm
  assignments := by
    funext other
    by_cases same : other = link
    · subst same
      rw [Function.update_self]
      change (if _ then _ else _) = _
      rw [Table.find_delete, if_neg]
      cases found : world.tables.roleLinks.find other with
      | none => exact Bool.false_ne_true
      | some row => simp [(Table.find_eq_some.mp found).2]
    · rw [Function.update_of_ne same]
      exact deleteRoleLink_assignments (Ne.symm same)
  links := by
    refine List.filter_congr fun row _ => ?_
    rw [Bool.or_false]
    simp
  rest := ⟨rfl, rfl, rfl, rfl, rfl, rfl, rfl, rfl, rfl, rfl⟩

/-- A statement that may fail is local where the statement is. -/
theorem statement_local (own : operation.callsRoleLogic = false)
    (served : Local link fun world => perform engines world operation) :
    Local link fun world => attempted engines crates turn world operation := by
  simp only [attempted_statement own]
  cases turn.failure with
  | some error => exact failure_local _
  | none => exact served

/-- Every operation of an action looks at its link and changes that link alone. -/
theorem attempted_local (named : operation.link? = some link) :
    Local link fun world => attempted engines crates turn world operation := by
  cases operation with
  | getUserInfo other token =>
      cases named
      exact called_local _
  | addUser other discordId token =>
      cases named
      exact called_local _
  | removeUser other discordId token =>
      cases named
      exact called_local _
  | uploadUsers other ids token =>
      cases named
      exact called_local _
  | insertAssignment other discordId =>
      cases named
      exact statement_local rfl (executed_local (insert discordId))
  | deleteAssignment other discordId =>
      cases named
      exact statement_local rfl (executed_local fun ids => ids.erase discordId)
  | clearAssignments other =>
      cases named
      exact statement_local rfl (executed_local fun _ => ∅)
  | replaceAssignments other ids =>
      cases named
      refine statement_local rfl ?_
      change Local link fun world => executed world (if ids.Nodup then _ else _)
      by_cases once : ids.Nodup
      · simp only [if_pos once]
        exact executed_local fun _ => ids.toFinset
      · simp only [if_neg once]
        exact failure_local _
  | deleteRoleLink other =>
      cases named
      refine statement_local rfl
        ⟨fun view => (.ok (), { view with ids := ∅, stored := false }), fun world => ?_⟩
      exact ⟨rfl, deleteRoleLink_becomes world link, nofun⟩
  | _ => cases named

/-- Operations of actions for different links may be interchanged. -/
theorem acting_interchange {script : Script} {other : Link} {one another : SyncOp}
    (different : link ≠ other) (left : one.link? = some link) (right : another.link? = some other) :
    Interchange (acting engines crates script) one another :=
  local_swap different (attempted_local left) (attempted_local right)

end Operations

end OsuPlayerRole.Sync
