/-
This file gives the three truth values of a database condition.
-/
import Mathlib.Data.List.Forall2

namespace ThreeValued

/-- The missing value is the truth value UNKNOWN. -/
abbrev Truth := Option Bool

/-- A row is kept only when its condition is TRUE. -/
def holds (truth : Truth) : Prop := truth = some true

instance (truth : Truth) : Decidable (holds truth) := inferInstanceAs (Decidable (truth = some true))

@[simp] theorem holds_some (value : Bool) : holds (some value) ↔ value = true := by
  simp [holds]

/-- The unknown truth does not hold. -/
@[simp] theorem not_holds_none : ¬ holds none := by
  simp [holds]

def not : Truth → Truth := Option.map Bool.not

def and : Truth → Truth → Truth
  | some false, _ => some false
  | _, some false => some false
  | some true, some true => some true
  | _, _ => none

def or : Truth → Truth → Truth
  | some true, _ => some true
  | _, some true => some true
  | some false, some false => some false
  | _, _ => none

/-- A conjunction holds when both parts do. -/
@[simp] theorem holds_and (first second : Truth) :
    holds (and first second) ↔ holds first ∧ holds second := by
  rcases first with _ | _ | _ <;> rcases second with _ | _ | _ <;> decide

/-- A disjunction holds when one part does. -/
@[simp] theorem holds_or (first second : Truth) :
    holds (or first second) ↔ holds first ∨ holds second := by
  rcases first with _ | _ | _ <;> rcases second with _ | _ | _ <;> decide

section Sequence

variable {Error A : Type}

/-- The conjunction is evaluated from the left and stops at the first FALSE. -/
def all (value : A → Except Error Truth) : List A → Except Error Truth
  | [] => .ok (some true)
  | first :: rest => do
      let truth ← value first
      if truth = some false then .ok (some false)
      else return and truth (← all value rest)

/-- The disjunction is evaluated from the left and stops at the first TRUE. -/
def any (value : A → Except Error Truth) : List A → Except Error Truth
  | [] => .ok (some false)
  | first :: rest => do
      let truth ← value first
      if truth = some true then .ok (some true)
      else return or truth (← any value rest)

/-- The value of the condition is known and is TRUE exactly when the fact is. -/
def Decides (value : Except Error Truth) (fact : Prop) : Prop :=
  ∃ truth, value = .ok truth ∧ (holds truth ↔ fact)

/-- A truth that holds when a fact does decides the fact. -/
theorem decides_ok {truth : Truth} {fact : Prop} (same : holds truth ↔ fact) :
    Decides (.ok truth : Except Error Truth) fact := ⟨truth, rfl, same⟩

/-- A decision is about a fact up to equivalence. -/
theorem decides_congr {value : Except Error Truth} {first second : Prop}
    (decides : Decides value first) (same : first ↔ second) : Decides value second := by
  obtain ⟨truth, valueTruth, holdsTruth⟩ := decides
  exact ⟨truth, valueTruth, holdsTruth.trans same⟩

/-- A value decides the facts that are equivalent to the one that it decides. -/
theorem decides_iff {value : Except Error Truth} {first second : Prop}
    (decides : Decides value first) : Decides value second ↔ (first ↔ second) := by
  refine ⟨fun other => ?_, decides_congr decides⟩
  obtain ⟨truth, valueTruth, holdsTruth⟩ := decides
  obtain ⟨again, valueAgain, holdsAgain⟩ := other
  cases valueTruth.symm.trans valueAgain
  exact holdsTruth.symm.trans holdsAgain

variable {B : Type}

/-- Without errors the conjunction is TRUE exactly when every part is TRUE. -/
theorem all_decides {value : A → Except Error Truth} {items : List A} {facts : List B}
    {fact : B → Prop}
    (decided : List.Forall₂ (fun item part => Decides (value item) (fact part)) items facts) :
    Decides (all value items) (∀ part ∈ facts, fact part) := by
  induction decided with
  | nil => exact decides_ok (by simp)
  | cons head tail ih =>
      obtain ⟨first, firstValue, firstHolds⟩ := head
      obtain ⟨rest, restValue, restHolds⟩ := ih
      by_cases stopped : first = some false
      · refine ⟨some false, by simp [all, firstValue, stopped, bind, Except.bind], ?_⟩
        rw [stopped] at firstHolds
        simp [← firstHolds]
      · refine ⟨and first rest, ?_, ?_⟩
        · simp [all, firstValue, restValue, stopped, bind, Except.bind, pure, Except.pure]
        · rw [holds_and, firstHolds, restHolds, List.forall_mem_cons]

/-- Without errors the disjunction is TRUE exactly when some part is TRUE. -/
theorem any_decides {value : A → Except Error Truth} {items : List A} {facts : List B}
    {fact : B → Prop}
    (decided : List.Forall₂ (fun item part => Decides (value item) (fact part)) items facts) :
    Decides (any value items) (∃ part ∈ facts, fact part) := by
  induction decided with
  | nil => exact decides_ok (by simp)
  | cons head tail ih =>
      obtain ⟨first, firstValue, firstHolds⟩ := head
      obtain ⟨rest, restValue, restHolds⟩ := ih
      by_cases stopped : first = some true
      · refine ⟨some true, by simp [any, firstValue, stopped, bind, Except.bind], ?_⟩
        rw [stopped] at firstHolds
        simp [← firstHolds]
      · refine ⟨or first rest, ?_, ?_⟩
        · simp [any, firstValue, restValue, stopped, bind, Except.bind, pure, Except.pure]
        · rw [holds_or, firstHolds, restHolds]
          simp

/-- The conjunction of one value is that value. -/
theorem all_singleton {value : A → Except Error Truth} {item : A} {fact : Prop}
    (decides : Decides (value item) fact) : Decides (all value [item]) fact := by
  have listed : List.Forall₂ (fun other (_ : Unit) => Decides (value other) fact) [item] [()] :=
    .cons decides .nil
  exact decides_congr (all_decides listed) (by simp)

/-- The disjunction of one value is that value. -/
theorem any_singleton {value : A → Except Error Truth} {item : A} {fact : Prop}
    (decides : Decides (value item) fact) : Decides (any value [item]) fact := by
  have listed : List.Forall₂ (fun other (_ : Unit) => Decides (value other) fact) [item] [()] :=
    .cons decides .nil
  exact decides_congr (any_decides listed) (by simp)

end Sequence

end ThreeValued
