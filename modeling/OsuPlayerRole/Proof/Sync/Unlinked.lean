/-
This file shows that a member without a linked account loses the roles and is granted none.
-/
import OsuPlayerRole.Proof.Sample
import OsuPlayerRole.Proof.Sync.CleanPlayer
import OsuPlayerRole.Proof.Sync.GroundedCalls

namespace OsuPlayerRole.Sync

open Resumption Program

variable {engines : Engines} {discordId : DiscordId}

/-- The member has no linked account, and no other party writes to the lists of RoleLogic. -/
def Unlinked (discordId : DiscordId) (system : System) (event : Event) : Prop :=
  system.world.tables.osuUsers.find discordId = none ∧
    ∀ world, event = .change world → world.remote = system.world.remote

/-- The step puts the member on no list of RoleLogic. -/
def GainsNothing (engines : Engines) (discordId : DiscordId) (system : System) (event : Event) : Prop :=
  ∀ after, system.step engines event = some after →
    ∀ link, discordId ∈ after.world.remote link → discordId ∈ system.world.remote link

section Moments

variable {moments : List Moment}

/-- At none of the moments the member had a linked account. -/
def NeverLinked (discordId : DiscordId) (moments : List Moment) : Prop :=
  ∀ moment ∈ moments, moment.world.tables.osuUsers.find discordId = none

/-- A user without an account is judged by no tree. -/
theorem not_judged {tree : RuleTree} (never : NeverLinked discordId moments) :
    ¬Judged engines moments discordId tree true := by
  intro judged
  generalize verdict : true = granted at judged
  cases judged with
  | linked granted observed =>
      rw [never _ observed.1] at verdict
      cases verdict
  | unconfigured plain empty => cases verdict
  | unknown plain observed absent => cases verdict
  | evaluated plain observed ticked found selected =>
      rw [never _ observed.1] at found
      cases found

/-- No query selects a user without an account. -/
theorem not_selected {link : Link} {tree : RuleTree} {ids : List DiscordId}
    (never : NeverLinked discordId moments) (selected : Selected engines moments link tree ids) :
    discordId ∉ ids := by
  cases selected with
  | unconfigured nobody => exact List.not_mem_nil
  | deserted asked empty => exact List.not_mem_nil
  | queried asked counted observed listed =>
      intro member
      obtain ⟨user, stored, same, _⟩ := linked_of_uncapped listed (List.mem_of_mem_take member)
      have absent := KeyedTable.Table.find_eq_none.mp (never _ observed.1) user stored
      exact absent same

/-- An operation that the moments support puts the member on no list. -/
theorem not_added {operation : SyncOp} (never : NeverLinked discordId moments)
    (supports : Supports engines moments operation) (remote : Link → Finset DiscordId) (link : Link)
    (member : discordId ∈ operation.part.onRemote remote link) : discordId ∈ remote link := by
  cases operation with
  | addUser target other token =>
      obtain ⟨tree, _, _, judged⟩ := supports
      change discordId ∈ Function.update remote target (insert other (remote target)) link at member
      by_cases same : link = target
      · subst same
        rw [Function.update_self] at member
        obtain rfl | held := Finset.mem_insert.mp member
        · exact absurd judged (not_judged never)
        · exact held
      · rwa [Function.update_of_ne same] at member
  | removeUser target other token =>
      change discordId ∈ Function.update remote target ((remote target).erase other) link at member
      by_cases same : link = target
      · subst same
        rw [Function.update_self] at member
        exact Finset.mem_of_mem_erase member
      · rwa [Function.update_of_ne same] at member
  | uploadUsers target ids token =>
      obtain ⟨tree, _, selected⟩ := supports
      change discordId ∈ Function.update remote target ids.toFinset link at member
      by_cases same : link = target
      · subst same
        rw [Function.update_self, List.mem_toFinset] at member
        exact absurd member (not_selected never selected)
      · rwa [Function.update_of_ne same] at member
  | _ => exact member

end Moments

section Runs

/-- The threads are founded, and the member was linked at no moment. -/
structure KeptOut (engines : Engines) (discordId : DiscordId) (trail : Trail) : Prop where
  founded : Founded engines trail
  never : NeverLinked discordId trail.moments

/-- Every step keeps the user out. -/
theorem keptOut_step {trail after : Trail} {event : Event} (kept : KeptOut engines discordId trail)
    (unlinked : Unlinked discordId trail.system event) (stepped : trail.step engines event = some after) :
    KeptOut engines discordId after := by
  refine ⟨founded_step kept.founded stepped, fun moment inside => ?_⟩
  obtain ⟨system, moved, rfl⟩ := Option.map_eq_some_iff.mp stepped
  obtain old | fresh := List.mem_append.mp inside
  · exact kept.never moment old
  · cases event with
    | advance index outcome =>
        obtain ⟨thread, found, waits⟩ := Option.bind_eq_some_iff.mp (Option.mem_toList.mp fresh)
        obtain ⟨operation, head, rfl⟩ := Option.map_eq_some_iff.mp waits
        exact unlinked.1
    | _ => cases fresh

theorem gainsNothing_of_keptOut {trail : Trail} {event : Event}
    (kept : KeptOut engines discordId trail) (unlinked : Unlinked discordId trail.system event) :
    GainsNothing engines discordId trail.system event := by
  intro after stepped link member
  cases event with
  | advance index outcome =>
      have supported := supported_of_founded kept.founded (.advance index outcome)
      obtain ⟨⟨traced, threads⟩, advanced, rfl⟩ := Option.map_eq_some_iff.mp stepped
      obtain ⟨front, job, operation, next, back, split, found, rfl, rfl⟩ := advance_cases advanced
      have entered : trail.system.moment? (.advance index outcome) =
          some ⟨job, trail.system.world, outcome, operation⟩ := by
        rw [System.moment?, found]
        rfl
      cases outcome with
      | refused error => exact member
      | served =>
          change discordId ∈ (perform engines trail.system.world operation).2.remote link at member
          rw [perform_remote] at member
          refine not_added (fun moment inside => ?_) (supported _ entered) _ link member
          exact kept.never moment (List.mem_filter.mp inside).1
  | change world =>
      cases stepped
      rw [← unlinked.2 world rfl]
      exact member
  | register other token =>
      simp only [System.step] at stepped
      split at stepped
      · cases stepped
        exact member
      · cases stepped
        exact member
  | begin dispatch =>
      cases stepped
      exact member
  | stop job =>
      cases stepped
      exact member

/-- While the member is unlinked, no step of any job puts the member on a list. -/
theorem gainsNothing_run {world : World} {events : List Event}
    (unlinked : EventRun.Guarded (System.step engines) (Unlinked discordId) (System.start world) events) :
    EventRun.Guarded (System.step engines) (GainsNothing engines discordId) (System.start world) events := by
  have projects : ∀ (trail : Trail) event,
      (trail.step engines event).map Trail.system = trail.system.step engines event := by
    intro trail event
    rw [Trail.step, Option.map_map]
    exact Option.map_id'
  have richer := (EventRun.guarded_project projects (Trail.start world) events).mpr unlinked
  refine (EventRun.guarded_project projects (Trail.start world) events).mp ?_
  refine EventRun.guarded_of_invariant (KeptOut engines discordId)
    (fun _ _ _ kept met stepped => keptOut_step kept met stepped)
    (fun _ _ kept met => gainsNothing_of_keptOut kept met) ⟨?_, ?_⟩ richer
  · exact fun _ member => absurd member List.not_mem_nil
  · exact fun _ member => absurd member List.not_mem_nil

end Runs

section Revoked

variable {world after : World}

/-- A user without an account meets no link's rule. -/
theorem meets_unlinked (unlinked : world.tables.osuUsers.find discordId = none) (row : RoleLink) :
    meets engines discordId world row = false := by
  unfold meets satisfies
  split
  · rw [unlinked]
    rfl
  · split
    · rfl
    · rw [selectFacts, unlinked]

/-- Once a player job without a failure has run for a member who has unlinked, the member is on no list
of the guilds that the gateway reports, and no run of jobs puts the member there again while no account
is linked. -/
theorem unlinked_stays_out (engines : Engines) (discordId : DiscordId) (world after : World)
    (events : List Event) (row : RoleLink) (stored : row ∈ world.tables.roleLinks.rows)
    (listed : row.guildId ∈ world.guildsOf discordId)
    (level : world.tables.roleAssignments row.link = world.remote row.link)
    (absent : world.tables.osuUsers.find discordId = none)
    (completes : Completes engines (.playerSync discordId) world after)
    (unlinked : EventRun.Guarded (System.step engines) (Unlinked discordId) (System.start after) events) :
    EventRun.Guarded (System.step engines)
      (fun system _ => discordId ∉ system.world.remote row.link) (System.start after) events ∧
      ∀ last, EventRun.run (System.step engines) (System.start after) events = some last →
        discordId ∉ last.world.remote row.link := by
  have cleared : discordId ∉ after.remote row.link := by
    obtain ⟨_, reached, _⟩ := player_completes stored level completes
    rw [reached.1, outcome, if_pos (List.contains_iff_mem.mpr listed), meets_unlinked absent]
    exact Finset.notMem_erase _ _
  have gains := gainsNothing_run unlinked
  refine ⟨?_, fun last ran => ?_⟩
  · exact EventRun.guarded_of_invariant (fun system => discordId ∉ system.world.remote row.link)
      (fun _ _ _ out gained stepped member => out (gained _ stepped row.link member))
      (fun _ _ out _ => out) cleared gains
  · exact EventRun.run_invariant (fun system => discordId ∉ system.world.remote row.link)
      (fun _ _ _ out gained stepped member => out (gained _ stepped row.link member)) cleared gains ran

/-- The player "1" is on the list of the link, in RoleLogic and in the mirror, and has no account. -/
def leftBehind : World :=
  { Sample.grantingWorld "token" .empty List.nodup_nil 100 with
    tables :=
      { Sample.oneLink (Sample.roleLink "token" Sample.grantAny) .empty List.nodup_nil with
        roleAssignments := fun link => if link = Sample.link then {"1"} else ∅
        assignmentsReference := fun link present => by
          by_cases same : link = Sample.link
          · subst same
            decide +kernel
          · rw [if_neg same] at present
            exact absurd rfl present }
    remote := fun link => if link = Sample.link then {"1"} else ∅ }

/-- The link is synchronized after the player. -/
def laterSync : List Event := .begin (.configSync Sample.link) :: List.replicate 3 (.advance 0 .served)

theorem unlinked_one_stays_out : ∃ after last,
    Completes Sample.letterEngines (.playerSync "1") leftBehind after ∧
      EventRun.run (System.step Sample.letterEngines) (System.start after) laterSync = some last ∧
      "1" ∉ last.world.remote Sample.link := by
  have synced : ∃ first ∈ EventRun.run (System.serve Sample.letterEngines)
      (System.alone Sample.letterEngines leftBehind (.playerSync "1")) (List.replicate 6 0),
      first.quiet = true ∧
        EventRun.Guarded (System.step Sample.letterEngines)
          (fun system _ => system.world.tables.osuUsers.find "1" = none) (System.start first.world)
          laterSync ∧
        (EventRun.run (System.step Sample.letterEngines) (System.start first.world) laterSync).isSome := by
    decide +kernel
  obtain ⟨first, ran, quiet, absent, goes⟩ := synced
  obtain ⟨last, later⟩ := Option.isSome_iff_exists.mp goes
  have completes : Completes Sample.letterEngines (.playerSync "1") leftBehind first.world :=
    ⟨_, first, ran, quiet, rfl⟩
  have unchanged : EventRun.Guarded (System.step Sample.letterEngines)
      (fun system event => ∀ world, event = .change world → world.remote = system.world.remote)
      (System.start first.world) laterSync := by
    refine EventRun.guarded_of_events fun event member before world same => ?_
    rw [same] at member
    exact absurd member (by simp [laterSync])
  have stays := unlinked_stays_out Sample.letterEngines "1" leftBehind first.world laterSync
    (Sample.roleLink "token" Sample.grantAny) (List.mem_singleton_self _) List.mem_cons_self rfl rfl
    completes (EventRun.guarded_and absent unchanged)
  exact ⟨first.world, last, completes, later, stays.2 last later⟩

end Revoked

end OsuPlayerRole.Sync
