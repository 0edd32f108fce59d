/-
This file shows when the jobs never delete a link whose stored token RoleLogic accepts.
-/
import OsuPlayerRole.Proof.Sample
import OsuPlayerRole.Proof.Sync.ServedWorld

namespace OsuPlayerRole.Sync

open Resumption Program

def SyncOp.calls (link : Link) (operation : SyncOp) : Bool :=
  match operation.part with
  | .roleLogic other _ => other = link
  | _ => false

def System.storedToken (system : System) (link : Link) : Option String :=
  (system.world.tables.roleLinks.find link).map RoleLink.apiToken

/-- RoleLogic never rejects the stored token of the link as invalid or revoked. -/
def AcceptsStored (link : Link) (system : System) : Event → Prop
  | .advance index outcome => outcome = .refused .roleLinkNotFound →
      ∀ operation ∈ system.waiting index, operation.calls link = true →
        operation.token? ≠ system.storedToken link
  | _ => True

/-- Each call for the link presents the token that is stored at that moment. -/
def PresentsStored (link : Link) (system : System) : Event → Prop
  | .advance index _ => ∀ operation ∈ system.waiting index,
      operation.calls link = true → operation.token? = system.storedToken link
  | _ => True

instance (link : Link) (system : System) : ∀ event, Decidable (AcceptsStored link system event)
  | .advance index outcome => inferInstanceAs (Decidable (outcome = .refused .roleLinkNotFound →
      ∀ operation ∈ system.waiting index, operation.calls link = true →
        operation.token? ≠ system.storedToken link))
  | .begin _ => isTrue trivial
  | .stop _ => isTrue trivial
  | .change _ => isTrue trivial
  | .register _ _ => isTrue trivial

instance (link : Link) (system : System) : ∀ event, Decidable (PresentsStored link system event)
  | .advance index _ => inferInstanceAs (Decidable (∀ operation ∈ system.waiting index,
      operation.calls link = true → operation.token? = system.storedToken link))
  | .begin _ => isTrue trivial
  | .stop _ => isTrue trivial
  | .change _ => isTrue trivial
  | .register _ _ => isTrue trivial

/-- A step of a job keeps the row of the link, and changes its assignments only by a write to the
mirror. -/
def KeepsLink (engines : Engines) (link : Link) (system : System) : Event → Prop
  | .advance index outcome => ∀ after, system.step engines (.advance index outcome) = some after →
      after.world.tables.roleLinks.find link = system.world.tables.roleLinks.find link ∧
      (after.world.tables.roleAssignments link = system.world.tables.roleAssignments link ∨
        ∃ operation update, system.waiting index = some operation ∧
          operation.part = .mirror link update)
  | _ => True

/-- No thread is about to delete the link. -/
structure Unrejected (link : Link) (system : System) : Prop where
  sound : ∀ thread ∈ system.threads, thread.Sound (exchange fun _ => True) needs .idle
  accepted : ∀ thread ∈ system.threads, statusOf thread ≠ .rejected link

section Steps

variable {engines : Engines} {link : Link} {system after : System}

/-- Every answer of the world is plausible, whatever the outcome. -/
theorem plausible_answer (outcome : Outcome) (world : World) (operation : SyncOp) :
    Plausible (fun _ => True) operation (answer engines outcome world operation).1 := by
  cases outcome with
  | served => exact plausible_perform fun _ _ => trivial
  | refused error => exact plausible_error error

/-- Only a rejected call for the link leads to its deletion. -/
theorem rejected_call {outcome : Outcome} {world : World} {operation : SyncOp}
    (rejected : operation.part.after (answer engines outcome world operation).1 = .rejected link) :
    outcome = .refused .roleLinkNotFound ∧ operation.calls link = true := by
  cases part : operation.part with
  | roleLogic target update =>
      rw [part] at rejected
      cases outcome with
      | served =>
          obtain ⟨⟨value, served⟩, _⟩ := perform_roleLogic engines world part
          rw [answer, served] at rejected
          cases update <;> cases rejected
      | refused error =>
          have known : error = .roleLinkNotFound ∧ target = link := by
            cases error <;> cases update <;> cases rejected <;> exact ⟨rfl, rfl⟩
          obtain ⟨rfl, rfl⟩ := known
          refine ⟨rfl, ?_⟩
          rw [SyncOp.calls, part]
          exact decide_eq_true rfl
  | mirror target update =>
      rw [part] at rejected
      cases rejected
  | orphan target =>
      rw [part] at rejected
      cases rejected
  | other =>
      rw [part] at rejected
      cases rejected

theorem unrejected_begin (unrejected : Unrejected link system) (dispatch : Dispatch) :
    Unrejected link { system with
      threads := system.threads ++
        (⟨system.jobs, dispatch.program engines⟩ : SyncThread).settled
      jobs := system.jobs + 1 } := by
  have follows := dispatch_follows (fun _ => True) engines dispatch
  refine ⟨fun thread member => ?_, fun thread member => ?_⟩
  · obtain old | fresh := List.mem_append.mp member
    · exact unrejected.sound thread old
    · exact sound_settled exchange_directed follows thread fresh
  · obtain old | fresh := List.mem_append.mp member
    · exact unrejected.accepted thread old
    · have idle : statusOf thread = .idle := by
        obtain same | same := status_settled exchange_directed follows thread fresh <;> exact same
      rw [idle]
      exact Status.noConfusion

/-- A call that RoleLogic rejects presents another token than the stored one. -/
theorem unrejected_advance (unrejected : Unrejected link system) {index : Nat} {outcome : Outcome}
    (accepts : AcceptsStored link system (.advance index outcome))
    (presents : PresentsStored link system (.advance index outcome))
    (stepped : system.step engines (.advance index outcome) = some after) :
    Unrejected link after := by
  obtain ⟨⟨traced, threads⟩, advanced, rfl⟩ := Option.map_eq_some_iff.mp stepped
  obtain ⟨front, job, operation, next, back, split, found, rfl, rfl⟩ := advance_cases advanced
  have member : (⟨job, .call operation next⟩ : SyncThread) ∈ system.threads := by
    rw [split]
    exact List.mem_append_right front List.mem_cons_self
  have waiting : operation ∈ system.waiting index := by
    rw [System.waiting, found]
    rfl
  have expected : Plausible (fun _ => True) operation
      (Traced.answer engines outcome system.traced operation).1 := plausible_answer outcome _ operation
  have follows := (unrejected.sound _ member).2 _ expected
  refine ⟨fun thread inside => ?_, fun thread inside => ?_⟩
  · obtain old | fresh := mem_advanced inside
    · exact unrejected.sound thread (split ▸ old)
    · exact sound_settled exchange_directed follows thread fresh
  · obtain old | fresh := mem_advanced inside
    · exact unrejected.accepted thread (split ▸ old)
    · obtain idle | same := status_settled exchange_directed follows thread fresh
      · rw [show statusOf thread = .idle from idle]
        exact Status.noConfusion
      · intro rejected
        obtain ⟨rfl, called⟩ := rejected_call (same.symm.trans rejected)
        exact accepts rfl operation waiting called (presents operation waiting called)

/-- Under the two conditions no step brings a thread to delete the link. -/
theorem unrejected_step (unrejected : Unrejected link system) {event : Event}
    (accepts : AcceptsStored link system event) (presents : PresentsStored link system event)
    (stepped : system.step engines event = some after) : Unrejected link after := by
  cases event with
  | begin dispatch =>
      cases stepped
      exact unrejected_begin unrejected dispatch
  | advance index outcome => exact unrejected_advance unrejected accepts presents stepped
  | stop job =>
      cases stepped
      exact ⟨fun thread inside => unrejected.sound thread (List.mem_filter.mp inside).1,
        fun thread inside => unrejected.accepted thread (List.mem_filter.mp inside).1⟩
  | change world =>
      cases stepped
      exact ⟨unrejected.sound, unrejected.accepted⟩
  | register other token =>
      simp only [System.step] at stepped
      split at stepped
      · cases stepped
        exact ⟨unrejected.sound, unrejected.accepted⟩
      · cases stepped
        exact unrejected

/-- A served operation that does not delete the link keeps its row, and writes its assignments only as
a write to its mirror. -/
theorem perform_keeps (engines : Engines) (world : World) {operation : SyncOp}
    (spared : operation.part ≠ .orphan link) :
    (perform engines world operation).2.tables.roleLinks.find link = world.tables.roleLinks.find link ∧
      ((perform engines world operation).2.tables.roleAssignments link =
          world.tables.roleAssignments link ∨
        ∃ update, operation.part = .mirror link update) := by
  cases part : operation.part with
  | other =>
      rw [perform_other part]
      exact ⟨rfl, Or.inl rfl⟩
  | roleLogic target update =>
      rw [(perform_roleLogic engines world part).2]
      exact ⟨rfl, Or.inl rfl⟩
  | mirror target update =>
      have links : (perform engines world operation).2.tables.roleLinks = world.tables.roleLinks :=
        perform_links fun other orphan => by
          rw [part] at orphan
          cases orphan
      rw [links]
      refine ⟨rfl, ?_⟩
      by_cases same : target = link
      · subst same
        exact Or.inr ⟨update, rfl⟩
      · exact Or.inl (perform_mirror_frame part (Ne.symm same))
  | orphan target =>
      have other : target ≠ link := fun same => spared (part.trans (congrArg Part.orphan same))
      obtain rfl := deletes_of_orphan part
      exact ⟨deleteRoleLink_find other, Or.inl (deleteRoleLink_assignments other)⟩

/-- A step spares the link when no thread is about to delete it. -/
theorem keepsLink_of_unrejected {event : Event} (unrejected : Unrejected link system) :
    KeepsLink engines link system event := by
  cases event with
  | advance index outcome =>
      intro after stepped
      obtain ⟨⟨traced, threads⟩, advanced, rfl⟩ := Option.map_eq_some_iff.mp stepped
      obtain ⟨front, job, operation, next, back, split, found, rfl, rfl⟩ := advance_cases advanced
      have member : (⟨job, .call operation next⟩ : SyncThread) ∈ system.threads := by
        rw [split]
        exact List.mem_append_right front List.mem_cons_self
      have spared : operation.part ≠ .orphan link := by
        intro orphan
        refine unrejected.accepted _ member ?_
        change operation.part.needs = _
        rw [orphan]
        rfl
      have waiting : system.waiting index = some operation := by
        rw [System.waiting, found]
        rfl
      cases outcome with
      | refused error => exact ⟨rfl, Or.inl rfl⟩
      | served =>
          obtain ⟨row, same | ⟨update, mirrored⟩⟩ :=
            perform_keeps engines system.world spared
          · exact ⟨row, Or.inl same⟩
          · exact ⟨row, Or.inr ⟨operation, update, waiting, mirrored⟩⟩
  | _ => trivial

end Steps

/-- While RoleLogic accepts the stored token of a link and every call for the link presents the token
stored at that moment, no step of a job deletes the link. -/
theorem live_link_kept (engines : Engines) (link : Link) (world : World) (events : List Event)
    (accepts : EventRun.Guarded (System.step engines) (AcceptsStored link) (System.start world) events)
    (presents : EventRun.Guarded (System.step engines) (PresentsStored link) (System.start world)
      events) :
    EventRun.Guarded (System.step engines) (KeepsLink engines link) (System.start world) events := by
  have start : Unrejected link (System.start world) :=
    ⟨fun _ member => absurd member List.not_mem_nil, fun _ member => absurd member List.not_mem_nil⟩
  exact EventRun.guarded_of_invariant (Unrejected link)
    (fun _ _ _ unrejected guarded stepped => unrejected_step unrejected guarded.1 guarded.2 stepped)
    (fun _ _ unrejected _ => keepsLink_of_unrejected unrejected) start
    (EventRun.guarded_and accepts presents)

section Rotation

/-- A linked player is a member of a guild whose link grants the role to every player. -/
def rotatedWorld : World :=
  Sample.grantingWorld "old" Sample.onePlayer Sample.onePlayer_distinct 100

/-- The player job plans with the old token, the link is registered again with a new one, and
RoleLogic rejects the old one. -/
def rotation : List Event :=
  .begin (.playerSync "1") :: List.replicate 4 (.advance 0 .served) ++
    [.register Sample.link "new", .advance 0 (.refused .roleLinkNotFound), .advance 0 .served]

/-- The link is gone, although RoleLogic accepts its stored token. -/
theorem live_link_deleted :
    EventRun.Guarded (System.step Sample.letterEngines) (AcceptsStored Sample.link)
        (System.start rotatedWorld) rotation ∧
      (System.start rotatedWorld).storedToken Sample.link = some "old" ∧
      (EventRun.run (System.step Sample.letterEngines) (System.start rotatedWorld) rotation).map
        (fun last => last.storedToken Sample.link) = some none := by
  refine ⟨?_, ?_, ?_⟩
  · decide +kernel
  · decide +kernel
  · decide +kernel

/-- The link is registered again before the job reads its token. -/
def earlyRotation : List Event :=
  .register Sample.link "new" :: .begin (.playerSync "1") :: List.replicate 6 (.advance 0 .served)

theorem live_link_kept_early : EventRun.Guarded (System.step Sample.letterEngines)
    (KeepsLink Sample.letterEngines Sample.link) (System.start rotatedWorld) earlyRotation :=
  live_link_kept Sample.letterEngines Sample.link rotatedWorld earlyRotation (by decide +kernel)
    (by decide +kernel)

end Rotation

end OsuPlayerRole.Sync
