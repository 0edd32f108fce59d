/-
This file gives values whose version grows with every change.
-/
import Mathlib.Order.Basic

namespace Versioned

variable {Value Version : Type} [Preorder Version] {held middle current : Value × Version}

/-- The current pair is the held one, or it has a later version. -/
def Since (held current : Value × Version) : Prop := held.2 < current.2 ∨ current = held

theorem Since.refl (held : Value × Version) : Since held held := Or.inr rfl

theorem Since.of_lt (later : held.2 < current.2) : Since held current := Or.inl later

/-- What came since the middle came since the start. -/
theorem Since.trans (first : Since held middle) (second : Since middle current) :
    Since held current := by
  obtain later | rfl := second
  · obtain earlier | rfl := first
    · exact Or.inl (earlier.trans later)
    · exact Or.inl later
  · exact first

/-- A comparison of the versions finds the held value. -/
theorem Since.eq_of_version (since : Since held current) (same : current.2 = held.2) :
    current = held := by
  obtain later | equal := since
  · exact absurd later (by rw [same]; exact lt_irrefl _)
  · exact equal

end Versioned
