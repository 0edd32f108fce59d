/-
This file shows what a player job without a failure does to one link.
-/
import OsuPlayerRole.Proof.Sync.OpenActions

namespace OsuPlayerRole.Sync

open Resumption Program

section Stage

variable (engines : Engines) (discordId : DiscordId) (base : World) (row : RoleLink)

/-- The list that the job leaves for the link. -/
def outcome : Finset DiscordId :=
  if (base.guildsOf discordId).contains row.guildId then
    adjust discordId (meets engines discordId base row) (base.remote row.link)
  else base.remote row.link

/-- An open action for the link is needed, and it leads to the outcome. -/
structure Leads (world : World) (act : Act) : Prop where
  needed : outcome engines discordId base row ≠ base.remote row.link
  mirror : adjust discordId act.action.adds (world.tables.roleAssignments row.link) =
    outcome engines discordId base row
  before : act.called = false →
    adjust discordId act.action.adds (world.remote row.link) = outcome engines discordId base row
  after : act.called = true → world.remote row.link = outcome engines discordId base row

/-- RoleLogic and the mirror show the outcome. -/
def Reached (world : World) : Prop :=
  world.remote row.link = outcome engines discordId base row ∧
    world.tables.roleAssignments row.link = outcome engines discordId base row

/-- The job reads while nothing changes, and then its actions are open. -/
inductive Stage (system : System) : Prop where
  | reading (thread : SyncThread) (entered : Bool) (alone : system.threads = [thread])
      (still : system.world = base)
      (follows : Follows (reads engines discordId base {base})
        (Finishes engines discordId base {base}) entered thread.program)
  | acting (job : Nat) (acts : List Act)
      (threads : system.threads = acts.map (Act.thread discordId job))
      (distinct : (acts.map fun act => act.action.link).Nodup)
      (lists : ListsChange base system.world)
      (course : Course row.link acts (Leads engines discordId base row system.world)
        (Reached engines discordId base row system.world))
      (legible : row ∈ linksOf discordId base → Legible engines discordId base row)

end Stage

section Job

variable {engines : Engines} {discordId : DiscordId} {base : World} {row : RoleLink}

/-- The links of a user are the stored links of the user's guilds. -/
theorem mem_linksOf (stored : row ∈ base.tables.roleLinks.rows) :
    row ∈ linksOf discordId base ↔ (base.guildsOf discordId).contains row.guildId = true := by
  rw [linksOf, List.mem_filter]
  exact and_iff_right stored

theorem frozen_self : Frozen engines discordId base {base} base :=
  ⟨⟨rfl, rfl⟩, fun _ same => same ▸ variants_self⟩

/-- The plan leads the link to the outcome. -/
theorem course_planned (stored : row ∈ base.tables.roleLinks.rows)
    (level : base.tables.roleAssignments row.link = base.remote row.link) :
    Course row.link ((wanted engines discordId base).map fun action => ⟨action, false⟩)
      (Leads engines discordId base row base) (Reached engines discordId base row base) := by
  refine course_wanted stored (fun action inside corrected => ?_) fun untouched => ?_
  · obtain ⟨_, adds, differs⟩ := correctionOf_some corrected
    have goal : outcome engines discordId base row =
        adjust discordId (meets engines discordId base row) (base.remote row.link) :=
      if_pos ((mem_linksOf stored).mp inside)
    refine ⟨fun same => differs ?_, ?_, fun _ => ?_, fun called => by cases called⟩
    · have verdict := adjust_eq_self.mp (goal.symm.trans same)
      rw [← level] at verdict
      exact Bool.eq_iff_iff.mpr (decide_eq_true_iff.trans verdict)
    · rw [goal, level, ← adds]
    · rw [goal, ← adds]
  · have goal : outcome engines discordId base row = base.remote row.link := by
      unfold outcome
      split
      · next inside =>
          have same := correctionOf_none (untouched ((mem_linksOf stored).mpr inside))
          rw [adjust_eq_self, ← level, ← same, decide_eq_true_iff]
      · rfl
    exact ⟨goal.symm, level.trans goal.symm⟩

/-- A program that ends as planned is at one of the stages. -/
theorem stage_settled (stored : row ∈ base.tables.roleLinks.rows)
    (level : base.tables.roleAssignments row.link = base.remote row.link) {system : System} {job : Nat}
    {program : SyncProgram (List (SyncProgram Unit))} {entered : Bool}
    (threads : system.threads = (⟨job, program⟩ : SyncThread).settled) (still : system.world = base)
    (follows : Follows (reads engines discordId base {base})
      (Finishes engines discordId base {base}) entered program) :
    Stage engines discordId base row system := by
  cases program with
  | call operation next => exact .reading _ entered threads still follows
  | fail error =>
      obtain ⟨actions, impossible, _⟩ := follows
      cases impossible
  | done branches =>
      obtain ⟨actions, same, ordered, decided, _⟩ := follows
      obtain rfl := Except.ok.inj same
      obtain ⟨rfl, legible⟩ := decided base frozen_self
      rw [settled_actions] at threads
      refine .acting job _ threads ?_ ?_ ?_ fun inside => legible row inside
      · rw [List.map_map]
        exact links_nodup.sublist ordered
      · exact still ▸ ListsChange.refl base
      · rw [still]
        exact course_planned stored level

/-- An action on another link leads where it led. -/
theorem leads_elsewhere {world after : World} {act : Act}
    (remote : after.remote row.link = world.remote row.link)
    (assignments : after.tables.roleAssignments row.link = world.tables.roleAssignments row.link)
    (leads : Leads engines discordId base row world act) :
    Leads engines discordId base row after act where
  needed := leads.needed
  mirror := assignments ▸ leads.mirror
  before called := remote ▸ leads.before called
  after called := remote ▸ leads.after called

/-- An action makes its call, and its write to the mirror reaches the outcome. -/
theorem leads_acted {world after : World} {act : Act} {left : List Act}
    (acted : Acted discordId world after act left) (same : act.action.link = row.link)
    (leads : Leads engines discordId base row world act) :
    (∀ other ∈ left, Leads engines discordId base row after other) ∧
      (left = [] → Reached engines discordId base row after) := by
  obtain ⟨rfl, uncalled, remote, assigned⟩ | ⟨rfl, called, remote, assigned⟩ := acted.effect
  · refine ⟨fun other member => ?_, fun impossible => by cases impossible⟩
    obtain rfl := List.mem_singleton.mp member
    refine ⟨leads.needed, assigned ▸ leads.mirror, ?_, fun _ => ?_⟩
    · intro impossible
      cases impossible
    · rw [← same, remote, same]
      exact leads.before uncalled
  · refine ⟨fun other member => absurd member List.not_mem_nil, fun _ => ⟨?_, ?_⟩⟩
    · rw [remote]
      exact leads.after called
    · rw [← same, assigned, same]
      exact leads.mirror

/-- Every served operation moves on to a stage. -/
theorem stage_step (stored : row ∈ base.tables.roleLinks.rows)
    (level : base.tables.roleAssignments row.link = base.remote row.link) {system after : System}
    {index : Nat} (stage : Stage engines discordId base row system)
    (stepped : system.serve engines index = some after) : Stage engines discordId base row after := by
  obtain ⟨front, job, operation, next, back, value, whole, _, answered, world, remaining⟩ :=
    serve_cases stepped
  cases stage with
  | reading thread entered alone still follows =>
      rw [alone] at whole
      obtain ⟨rfl, late⟩ | ⟨_, impossible⟩ := List.append_eq_singleton_iff.mp whole.symm
      · obtain ⟨rfl, rfl⟩ := List.cons_eq_cons.mp late
        rw [still] at answered world
        have same : after.world = base := world.trans (perform_other (part_of_entered follows.1.1))
        rw [List.nil_append, List.append_nil] at remaining
        exact stage_settled stored level remaining same (follows.2 _ ⟨⟨base, rfl, answered⟩, value, rfl⟩)
      · cases impossible
  | acting owner acts threads distinct lists course legible =>
      obtain ⟨early, later, rfl, rfl, laterThreads⟩ := List.map_eq_append_iff.mp (threads.symm.trans whole)
      obtain ⟨act, late, rfl, here, rfl⟩ := List.map_eq_cons_iff.mp laterThreads
      obtain rfl : owner = job := congrArg Thread.job here
      obtain ⟨left, settled, acted⟩ := acted_of_step (congrArg Thread.program here) answered
      rw [← world] at acted
      rw [settled, ← List.map_append, ← List.map_append] at remaining
      refine .acting owner _ remaining (acted_nodup acted distinct) (lists.trans acted.change.lists) ?_
        legible
      refine course_acted acted distinct (fun different => ⟨fun other => ?_, fun reached => ?_⟩)
        (leads_acted acted) course
      · exact leads_elsewhere (acted.change.remote _ different) (acted.change.assignments _ different)
      · rw [Reached, acted.change.remote _ different, acted.change.assignments _ different]
        exact reached

/-- The job begins at the first stage. -/
theorem stage_alone (stored : row ∈ base.tables.roleLinks.rows)
    (level : base.tables.roleAssignments row.link = base.remote row.link) :
    Stage engines discordId base row (System.alone engines base (.playerSync discordId)) := by
  refine stage_settled stored level rfl rfl (playerSync_reads fun world same => ?_)
  rw [Set.mem_singleton_iff.mp same]
  exact ⟨rfl, rfl⟩

/-- A job whose outcome is there already has no action for the link. -/
theorem stage_spares {system : System} (stage : Stage engines discordId base row system)
    (there : outcome engines discordId base row = base.remote row.link) (index : Nat) :
    Spares row.link system index := by
  intro operation waits writes
  obtain ⟨thread, found, head⟩ := Option.bind_eq_some_iff.mp waits
  have member := List.mem_of_getElem? found
  cases stage with
  | reading only entered alone still follows =>
      rw [alone] at member
      obtain rfl := List.mem_singleton.mp member
      obtain ⟨job, program⟩ := thread
      cases program with
      | call waiting next =>
          cases head
          rw [SyncOp.written?, part_of_entered follows.1.1] at writes
          cases writes
      | done branches => cases head
      | fail error => cases head
  | acting job acts threads distinct lists course legible =>
      rw [threads] at member
      obtain ⟨act, inside, rfl⟩ := List.mem_map.mp member
      have other : act.action.link ≠ row.link := fun same => (course.1 act inside same).needed there
      obtain ⟨action, called⟩ := act
      cases action <;> cases called <;> cases head
      · exact other (Option.some.inj writes)
      · cases writes
      · exact other (Option.some.inj writes)
      · cases writes

/-- A player job without a failure brings the link to the outcome. -/
theorem player_completes (stored : row ∈ base.tables.roleLinks.rows)
    (level : base.tables.roleAssignments row.link = base.remote row.link) {after : World}
    (completes : Completes engines (.playerSync discordId) base after) :
    ListsChange base after ∧ Reached engines discordId base row after ∧
      (row ∈ linksOf discordId base → Legible engines discordId base row) := by
  obtain ⟨indices, last, ran, quiet, rfl⟩ := completes
  have stage := EventRun.run_stable (Stage engines discordId base row)
    (fun _ _ _ => stage_step stored level) (stage_alone stored level) ran
  have ended : last.threads = [] := List.isEmpty_iff.mp quiet
  cases stage with
  | reading thread entered alone still follows =>
      rw [ended] at alone
      cases alone
  | acting job acts threads distinct lists course legible =>
      obtain rfl := List.map_eq_nil_iff.mp (threads.symm.trans ended)
      exact ⟨lists, course.2 fun act member => absurd member List.not_mem_nil, legible⟩

/-- A player job leaves alone a link whose list is right. -/
theorem player_spares (stored : row ∈ base.tables.roleLinks.rows)
    (level : base.tables.roleAssignments row.link = base.remote row.link)
    (there : outcome engines discordId base row = base.remote row.link) (indices : List Nat) :
    EventRun.Guarded (System.serve engines) (Spares row.link)
      (System.alone engines base (.playerSync discordId)) indices :=
  EventRun.guarded_of_stable (Stage engines discordId base row) (fun _ _ _ => stage_step stored level)
    (fun _ index stage => stage_spares stage there index) (stage_alone stored level) indices

end Job

end OsuPlayerRole.Sync
