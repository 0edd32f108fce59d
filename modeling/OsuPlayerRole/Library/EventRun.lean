/-
This file gives runs of a deterministic system that is driven by a list of events.
-/

namespace EventRun

variable {State Event : Type}

/-- The run stops with `none` at an event that is not enabled. -/
def run (step : State → Event → Option State) : State → List Event → Option State
  | state, [] => some state
  | state, event :: rest => (step state event).bind fun after => run step after rest

/-- Every event of the run meets the guard in the state before it. -/
def Guarded (step : State → Event → Option State) (guard : State → Event → Prop) :
    State → List Event → Prop
  | _, [] => True
  | state, event :: rest =>
      guard state event ∧ ∀ after, step state event = some after → Guarded step guard after rest

section

variable {step : State → Event → Option State} {guard : State → Event → Prop}

@[simp] theorem run_nil (state : State) : run step state [] = some state := rfl

theorem run_cons {state last : State} {event : Event} {rest : List Event}
    (ran : run step state (event :: rest) = some last) :
    ∃ after, step state event = some after ∧ run step after rest = some last :=
  Option.bind_eq_some_iff.mp ran

theorem run_step {state after : State} {event : Event} {rest : List Event}
    (stepped : step state event = some after) :
    run step state (event :: rest) = run step after rest := by
  rw [run, stepped, Option.bind_some]

theorem run_append (state : State) (first second : List Event) :
    run step state (first ++ second) =
      (run step state first).bind fun middle => run step middle second := by
  induction first generalizing state with
  | nil => rfl
  | cons event rest ih =>
      simp only [List.cons_append, run, Option.bind_assoc]
      exact congrArg _ (funext fun after => ih after)

/-- What one guarded step preserves, a guarded run preserves. -/
theorem run_invariant (invariant : State → Prop)
    (preserved : ∀ state event after, invariant state → guard state event →
      step state event = some after → invariant after)
    {state last : State} {events : List Event} (start : invariant state)
    (guarded : Guarded step guard state events) (ran : run step state events = some last) :
    invariant last := by
  induction events generalizing state with
  | nil =>
      cases ran
      exact start
  | cons event rest ih =>
      obtain ⟨after, stepped, remaining⟩ := run_cons ran
      exact ih (preserved state event after start guarded.1 stepped)
        (guarded.2 after stepped) remaining

/-- What the invariant and the guard imply at each step, they imply along the run. -/
theorem guarded_of_invariant {other : State → Event → Prop} (invariant : State → Prop)
    (preserved : ∀ state event after, invariant state → guard state event →
      step state event = some after → invariant after)
    (implied : ∀ state event, invariant state → guard state event → other state event)
    {state : State} {events : List Event} (start : invariant state)
    (guarded : Guarded step guard state events) : Guarded step other state events := by
  induction events generalizing state with
  | nil => trivial
  | cons event rest ih =>
      exact ⟨implied state event start guarded.1, fun after stepped =>
        ih (preserved state event after start guarded.1 stepped) (guarded.2 after stepped)⟩

/-- The guard holds at the step that follows a prefix of the run. -/
theorem guarded_at {state middle : State} {first : List Event} {event : Event} {rest : List Event}
    (guarded : Guarded step guard state (first ++ event :: rest))
    (ran : run step state first = some middle) : guard middle event := by
  induction first generalizing state with
  | nil =>
      cases ran
      exact guarded.1
  | cons head tail ih =>
      obtain ⟨after, stepped, remaining⟩ := run_cons ran
      exact ih (guarded.2 after stepped) remaining

theorem guarded_and {other : State → Event → Prop} {state : State} {events : List Event}
    (left : Guarded step guard state events) (right : Guarded step other state events) :
    Guarded step (fun before event => guard before event ∧ other before event) state events := by
  induction events generalizing state with
  | nil => trivial
  | cons event rest ih =>
      exact ⟨⟨left.1, right.1⟩, fun after stepped =>
        ih (left.2 after stepped) (right.2 after stepped)⟩

/-- Two guards that agree wherever a third one holds agree along its runs. -/
theorem guarded_congr {assumed other : State → Event → Prop} {state : State} {events : List Event}
    (met : Guarded step assumed state events)
    (agree : ∀ before event, assumed before event → (guard before event ↔ other before event)) :
    Guarded step guard state events ↔ Guarded step other state events := by
  induction events generalizing state with
  | nil => exact Iff.rfl
  | cons event rest ih =>
      exact and_congr (agree state event met.1) (forall₂_congr fun after stepped =>
        ih (met.2 after stepped))

/-- Two guards agree along the runs of an invariant that keeps them equal. -/
theorem guarded_iff_of_invariant {other : State → Event → Prop} (invariant : State → Prop)
    (preserved : ∀ state event after, invariant state → guard state event →
      step state event = some after → invariant after)
    (agree : ∀ state event, invariant state → (guard state event ↔ other state event))
    {state : State} (start : invariant state) (events : List Event) :
    Guarded step guard state events ↔ Guarded step other state events := by
  induction events generalizing state with
  | nil => exact Iff.rfl
  | cons event rest ih =>
      refine and_congr_right_iff.mpr ?_ |>.trans (and_congr_left fun _ => agree state event start)
      exact fun met => forall₂_congr fun after stepped =>
        ih (preserved state event after start met stepped)

/-- A guard that looks at the events alone is met when each event meets it. -/
theorem guarded_of_events {state : State} {events : List Event}
    (each : ∀ event ∈ events, ∀ before, guard before event) : Guarded step guard state events := by
  induction events generalizing state with
  | nil => trivial
  | cons event rest ih =>
      exact ⟨each event List.mem_cons_self state, fun after _ =>
        ih fun other inside => each other (List.mem_cons_of_mem event inside)⟩

/-- A guard that can be decided in each state can be decided along a run. -/
instance decidableGuarded [each : ∀ state event, Decidable (guard state event)] :
    ∀ state events, Decidable (Guarded step guard state events)
  | _, [] => isTrue trivial
  | state, event :: rest =>
      match stepped : step state event with
      | none => decidable_of_iff (guard state event)
          ⟨fun met => ⟨met, fun after reached => by rw [stepped] at reached; cases reached⟩, And.left⟩
      | some after =>
          have : Decidable (Guarded step guard after rest) := decidableGuarded after rest
          decidable_of_iff (guard state event ∧ Guarded step guard after rest)
            ⟨fun met => ⟨met.1, fun other reached => by
              obtain rfl := Option.some.inj (stepped.symm.trans reached)
              exact met.2⟩, fun guarded => ⟨guarded.1, guarded.2 after stepped⟩⟩

/-- A stronger guard is enough. -/
theorem guarded_mono {other : State → Event → Prop}
    (implied : ∀ before event, guard before event → other before event) {state : State}
    {events : List Event} (guarded : Guarded step guard state events) :
    Guarded step other state events := by
  induction events generalizing state with
  | nil => trivial
  | cons event rest ih =>
      exact ⟨implied state event guarded.1, fun after stepped => ih (guarded.2 after stepped)⟩

/-- A guard that every state admits is met by every run. -/
theorem guarded_of_forall (always : ∀ state event, guard state event) (state : State)
    (events : List Event) : Guarded step guard state events := by
  induction events generalizing state with
  | nil => trivial
  | cons event rest ih => exact ⟨always state event, fun after _ => ih after⟩

/-- What every step preserves, every run preserves. -/
theorem run_stable (invariant : State → Prop)
    (preserved : ∀ state event after, invariant state → step state event = some after →
      invariant after) {state last : State} {events : List Event} (start : invariant state)
    (ran : run step state events = some last) : invariant last := by
  have free : Guarded step (fun _ _ => True) state events := guarded_of_forall (fun _ _ => trivial) _ _
  exact run_invariant invariant (fun state event after held _ => preserved state event after held)
    start free ran

/-- What every step preserves limits every step. -/
theorem guarded_of_stable (invariant : State → Prop)
    (preserved : ∀ state event after, invariant state → step state event = some after →
      invariant after)
    (implied : ∀ state event, invariant state → guard state event) {state : State}
    (start : invariant state) (events : List Event) : Guarded step guard state events := by
  have free : Guarded step (fun _ _ => True) state events := guarded_of_forall (fun _ _ => trivial) _ _
  exact guarded_of_invariant invariant (fun state event after held _ => preserved state event after held)
    (fun state event held _ => implied state event held) start free

section Reaches

/-- Some run leads from the state to the last one. -/
def Reaches (step : State → Event → Option State) (state last : State) : Prop :=
  ∃ events, run step state events = some last

theorem Reaches.refl (state : State) : Reaches step state state := ⟨[], rfl⟩

theorem Reaches.trans {state middle last : State} (first : Reaches step state middle)
    (second : Reaches step middle last) : Reaches step state last := by
  obtain ⟨early, ran⟩ := first
  obtain ⟨late, remaining⟩ := second
  exact ⟨early ++ late, by rw [run_append, ran, Option.bind_some, remaining]⟩

end Reaches

section Projection

variable {Richer : Type} {richer : Richer → Event → Option Richer} {project : Richer → State}

/-- A guard that sees the projection holds along the richer run and along the projected one alike. -/
theorem guarded_project (projects : ∀ state event, (richer state event).map project = step (project state) event)
    (state : Richer) (events : List Event) :
    Guarded richer (fun before event => guard (project before) event) state events ↔
      Guarded step guard (project state) events := by
  induction events generalizing state with
  | nil => exact Iff.rfl
  | cons event rest ih =>
      refine and_congr_right fun _ => ⟨fun guarded after stepped => ?_, fun guarded after stepped => ?_⟩
      · rw [← projects] at stepped
        obtain ⟨reached, moved, rfl⟩ := Option.map_eq_some_iff.mp stepped
        exact (ih reached).mp (guarded reached moved)
      · refine (ih after).mpr (guarded (project after) ?_)
        rw [← projects, stepped, Option.map_some]

end Projection

end

end EventRun
