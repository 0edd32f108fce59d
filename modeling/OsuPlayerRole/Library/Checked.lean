/-
This file gives the rules for steps that may fail.
-/
import Mathlib.Data.List.Basic
import Mathlib.Data.List.Forall2

namespace Checked

variable {Error A B : Type}

/-- A sequence succeeds when both of its parts do. -/
theorem bind_ok {first : Except Error A} {rest : A → Except Error B} {result : B}
    (succeeded : first >>= rest = .ok result) :
    ∃ value, first = .ok value ∧ rest value = .ok result := by
  cases first with
  | error error => cases succeeded
  | ok value => exact ⟨value, rfl, succeeded⟩

/-- A translated error is still an error. -/
theorem mapError_ok {Other : Type} {translate : Error → Other} {answer : Except Error A} {value : A} :
    answer.mapError translate = .ok value ↔ answer = .ok value := by
  cases answer with
  | ok other => exact Iff.of_eq (by simp [Except.mapError])
  | error error => simp [Except.mapError]

/-- Every error of the step is of the allowed kind. -/
def FailsOnly (allowed : Error → Prop) (step : Except Error A) : Prop :=
  ∀ error, step = .error error → allowed error

section FailsOnly

variable {allowed : Error → Prop}

theorem failsOnly_ok (value : A) : FailsOnly allowed (.ok value : Except Error A) := by
  intro error failed
  cases failed

theorem failsOnly_error {error : Error} (kind : allowed error) :
    FailsOnly allowed (.error error : Except Error A) := by
  intro other failed
  cases failed
  exact kind

/-- A step and what follows it fail only in the allowed ways when each of them does. -/
theorem failsOnly_bind {first : Except Error A} {rest : A → Except Error B}
    (fails : FailsOnly allowed first) (failsRest : ∀ value, FailsOnly allowed (rest value)) :
    FailsOnly allowed (first >>= rest) := by
  cases first with
  | error early => exact failsOnly_error (fails early rfl)
  | ok value => exact failsRest value

/-- The image of a result fails as the result does. -/
theorem failsOnly_map {first : Except Error A} {image : A → B} (fails : FailsOnly allowed first) :
    FailsOnly allowed (image <$> first) := by
  cases first with
  | error early => exact failsOnly_error (fails early rfl)
  | ok value => exact failsOnly_ok (image value)

/-- A step that does not succeed has an allowed error. -/
theorem FailsOnly.refused {step : Except Error A} (fails : FailsOnly allowed step)
    (never : ∀ value, step ≠ .ok value) : ∃ error, allowed error ∧ step = .error error := by
  cases step with
  | error error => exact ⟨error, fails error rfl, rfl⟩
  | ok value => exact absurd rfl (never value)

end FailsOnly

/-- A step that succeeds on every item succeeds on the list. -/
theorem mapM_ok {step : A → Except Error B} {image : A → B} {items : List A}
    (each : ∀ item ∈ items, step item = .ok (image item)) :
    items.mapM step = .ok (items.map image) := by
  induction items with
  | nil => rfl
  | cons first rest ih =>
      rw [List.mapM_cons, each first List.mem_cons_self,
        ih fun item member => each item (List.mem_cons_of_mem _ member)]
      rfl

/-- One failing item fails the whole list. -/
theorem mapM_error {step : A → Except Error B} {items : List A} {item : A} {error : Error}
    (member : item ∈ items) (failed : step item = .error error) :
    ∃ first, items.mapM step = .error first := by
  induction items with
  | nil => exact absurd member List.not_mem_nil
  | cons first rest ih =>
      rw [List.mapM_cons]
      cases found : step first with
      | error early => exact ⟨early, rfl⟩
      | ok value =>
          have inside : item ∈ rest := by
            refine (List.mem_cons.mp member).resolve_left fun same => ?_
            rw [← same, failed] at found
            cases found
          obtain ⟨late, remaining⟩ := ih inside
          exact ⟨late, by rw [remaining]; rfl⟩

/-- What reads each written item back reads the written list back. -/
theorem mapM_written {C : Type} {read : B → Option C} {write : A → B} {image : A → C}
    {items : List A} (each : ∀ item ∈ items, read (write item) = some (image item)) :
    (items.map write).mapM read = some (items.map image) := by
  induction items with
  | nil => rfl
  | cons first rest ih =>
      rw [List.map_cons, List.mapM_cons, each first List.mem_cons_self,
        ih fun item member => each item (List.mem_cons_of_mem _ member)]
      rfl

/-- A step with an inverse recovers the list. -/
theorem mapM_inverse {read : B → Option A} {write : A → B} {items : List A}
    (inverse : ∀ item ∈ items, read (write item) = some item) :
    (items.map write).mapM read = some items := by
  have mapped : (items.map write).mapM read = some (items.map id) := mapM_written inverse
  rw [mapped, List.map_id]

/-! Two lists whose elements are related in their order. -/

section Paired

variable {relation : A → B → Prop} {items : List A} {others : List B}

/-- Every item of the first list has a partner in the second. -/
theorem exists_right (related : List.Forall₂ relation items others) {item : A}
    (member : item ∈ items) : ∃ other ∈ others, relation item other := by
  induction related with
  | nil => exact absurd member List.not_mem_nil
  | cons head tail ih =>
      rcases List.mem_cons.mp member with rfl | inside
      · exact ⟨_, List.mem_cons_self, head⟩
      · obtain ⟨other, found, same⟩ := ih inside
        exact ⟨other, List.mem_cons_of_mem _ found, same⟩

/-- Every item of the second list has a partner in the first. -/
theorem exists_left (related : List.Forall₂ relation items others) {other : B}
    (member : other ∈ others) : ∃ item ∈ items, relation item other := by
  obtain ⟨item, found, same⟩ := exists_right related.flip member
  exact ⟨item, found, same⟩

end Paired

end Checked
