/-
This file gives the conversion of a fraction to an integer that truncates and saturates.
-/
import Mathlib.Algebra.Order.Floor.Ring
import Mathlib.Tactic.Linarith

namespace Truncation

variable {K : Type} [Field K] [LinearOrder K] [FloorRing K]

/-- The fraction is cut off. -/
def truncate (value : K) : Int := if 0 ≤ value then ⌊value⌋ else -⌊-value⌋

/-- The result is clamped to the range of the integer type. -/
def saturate (low high : Int) (value : K) : Int := max low (min (truncate value) high)

section Bounds

variable {low high : Int} {value : K}

/-- A nonnegative fraction is rounded down. -/
theorem truncate_le (nonneg : 0 ≤ value) : (truncate value : K) ≤ value := by
  rw [truncate, if_pos nonneg]
  exact Int.floor_le value

/-- A saturated value lies in the range. -/
theorem low_le_saturate : low ≤ saturate low high value := le_max_left _ _

/-- A saturated value does not exceed the range. -/
theorem saturate_le_high (ordered : low ≤ high) : saturate low high value ≤ high :=
  max_le ordered (min_le_right _ _)

/-- Only a value below the range is raised. -/
theorem saturate_le_truncate (low high : Int) (value : K) :
    saturate low high value = low ∨ saturate low high value ≤ truncate value := by
  unfold saturate
  omega

/-- Only a value above the range is lowered. -/
theorem truncate_le_saturate (ordered : low ≤ high) (value : K) :
    saturate low high value = high ∨ truncate value ≤ saturate low high value := by
  unfold saturate
  omega

/-- Equality means the same exactly when the bound was not moved. -/
theorem equal_iff (ordered : low ≤ high) :
    (∀ actual : Int, low ≤ actual → actual ≤ high →
      (actual = saturate low high value ↔ (actual : K) = value)) ↔
        (saturate low high value : K) = value := by
  constructor
  · intro same
    exact (same _ low_le_saturate (saturate_le_high ordered)).mp rfl
  · intro kept actual _ _
    rw [← Int.cast_inj (α := K), kept]

end Bounds

variable [IsStrictOrderedRing K]

section Truncate

variable {value : K}

/-- An integer has no fraction to cut. -/
theorem truncate_intCast (integer : Int) : truncate (integer : K) = integer := by
  unfold truncate
  split
  · exact Int.floor_intCast integer
  · rw [← Int.cast_neg, Int.floor_intCast, neg_neg]

/-- A fraction that is not positive is rounded up. -/
theorem le_truncate (nonpos : value ≤ 0) : value ≤ (truncate value : K) := by
  rcases eq_or_lt_of_le nonpos with rfl | negative
  · simp [truncate]
  · rw [truncate, if_neg (not_le.mpr negative), Int.cast_neg]
    exact le_neg_of_le_neg (Int.floor_le (-value))

/-- The cut takes less than one away. -/
theorem lt_truncate_add_one (value : K) : value < truncate value + 1 := by
  rcases le_or_gt 0 value with nonneg | negative
  · rw [truncate, if_pos nonneg]
    exact Int.lt_floor_add_one value
  · exact lt_of_le_of_lt (le_truncate negative.le) (lt_add_one _)

/-- The cut adds less than one. -/
theorem truncate_sub_one_lt (value : K) : (truncate value : K) - 1 < value := by
  rcases le_or_gt 0 value with nonneg | negative
  · exact lt_of_lt_of_le (sub_one_lt _) (truncate_le nonneg)
  · rw [truncate, if_neg (not_le.mpr negative), Int.cast_neg]
    have above : -value < ⌊-value⌋ + 1 := Int.lt_floor_add_one (-value)
    linarith

/-- The cut is symmetric about zero. -/
theorem truncate_neg (value : K) : truncate (-value) = -truncate value := by
  rcases lt_trichotomy value 0 with negative | rfl | positive
  · rw [truncate, truncate, if_pos (by linarith), if_neg (not_le.mpr negative), neg_neg]
  · simp [truncate]
  · rw [truncate, truncate, if_neg (by linarith), if_pos positive.le, neg_neg]

end Truncate

section Saturate

variable {low high : Int} {value : K}

/-- An integer of the range is kept. -/
theorem saturate_intCast {integer : Int} (above : low ≤ integer) (below : integer ≤ high) :
    saturate low high (integer : K) = integer := by
  rw [saturate, truncate_intCast, min_eq_left below, max_eq_right above]

/-- A value below the upper bound loses less than one. -/
theorem lt_saturate_add_one (ordered : low ≤ high) (below : saturate low high value < high) :
    value < saturate low high value + 1 := by
  have cut : truncate value ≤ saturate low high value :=
    (truncate_le_saturate ordered value).resolve_left below.ne
  have bound : (truncate value : K) ≤ saturate low high value := Int.cast_le.mpr cut
  exact lt_of_lt_of_le (lt_truncate_add_one value) (by linarith)

/-- A value above the lower bound gains less than one. -/
theorem saturate_sub_one_lt (above : low < saturate low high value) :
    (saturate low high value : K) - 1 < value := by
  have cut : saturate low high value ≤ truncate value :=
    (saturate_le_truncate low high value).resolve_left above.ne'
  have bound : (saturate low high value : K) ≤ truncate value := Int.cast_le.mpr cut
  exact lt_of_le_of_lt (by linarith) (truncate_sub_one_lt value)

end Saturate

section Comparison

/-! A saturated bound against the integers of the range. -/

variable {low high : Int} {value first last : K}

/-- Strictly above the bound means the same exactly when the bound was not raised. -/
theorem above_iff (ordered : low ≤ high) :
    (∀ actual : Int, low ≤ actual → actual ≤ high →
      (saturate low high value < actual ↔ value < actual)) ↔ (saturate low high value : K) ≤ value := by
  constructor
  · intro same
    have own := same (saturate low high value) low_le_saturate (saturate_le_high ordered)
    exact not_lt.mp fun less => lt_irrefl _ (own.mpr less)
  · intro kept actual above below
    constructor
    · intro less
      have next : (saturate low high value : K) + 1 ≤ actual := by exact_mod_cast less
      exact lt_of_lt_of_le (lt_saturate_add_one ordered (lt_of_lt_of_le less below)) next
    · intro less
      exact Int.cast_lt.mp (lt_of_le_of_lt kept less)

/-- Strictly below the bound means the same exactly when the bound was not lowered. -/
theorem below_iff (ordered : low ≤ high) :
    (∀ actual : Int, low ≤ actual → actual ≤ high →
      (actual < saturate low high value ↔ (actual : K) < value)) ↔
        value ≤ (saturate low high value : K) := by
  constructor
  · intro same
    have own := same (saturate low high value) low_le_saturate (saturate_le_high ordered)
    exact not_lt.mp fun less => lt_irrefl _ (own.mpr less)
  · intro kept actual above below
    constructor
    · intro less
      have next : (actual : K) + 1 ≤ saturate low high value := by exact_mod_cast less
      have near : (saturate low high value : K) - 1 < value :=
        saturate_sub_one_lt (lt_of_le_of_lt above less)
      linarith
    · intro less
      exact Int.cast_lt.mp (lt_of_lt_of_le less kept)

/-- A range of saturated bounds never loses an integer. It gains none exactly when it is empty or
when neither bound was moved outward. -/
theorem between_iff (ordered : low ≤ high) :
    (∀ actual : Int, low ≤ actual → actual ≤ high →
      (saturate low high first ≤ actual ∧ actual ≤ saturate low high last ↔
        first ≤ actual ∧ (actual : K) ≤ last)) ↔
      saturate low high last < saturate low high first ∨
        first ≤ saturate low high first ∧ (saturate low high last : K) ≤ last := by
  constructor
  · intro same
    rcases lt_or_ge (saturate low high last) (saturate low high first) with empty | present
    · exact Or.inl empty
    · have start := same _ low_le_saturate (saturate_le_high ordered) |>.mp ⟨le_rfl, present⟩
      have stop := same _ low_le_saturate (saturate_le_high ordered) |>.mp ⟨present, le_rfl⟩
      exact Or.inr ⟨start.1, stop.2⟩
  · intro kept actual above below
    have inside : first ≤ actual ∧ (actual : K) ≤ last →
        saturate low high first ≤ actual ∧ actual ≤ saturate low high last := by
      rintro ⟨start, stop⟩
      constructor
      · by_contra! less
        have near : (saturate low high first : K) - 1 < first :=
          saturate_sub_one_lt (lt_of_le_of_lt above less)
        have next : (actual : K) + 1 ≤ saturate low high first := by exact_mod_cast less
        linarith
      · by_contra! less
        have near : last < saturate low high last + 1 :=
          lt_saturate_add_one ordered (lt_of_lt_of_le less below)
        have next : (saturate low high last : K) + 1 ≤ actual := by exact_mod_cast less
        linarith
    refine ⟨?_, inside⟩
    rintro ⟨start, stop⟩
    rcases kept with empty | ⟨startKept, stopKept⟩
    · exact absurd (start.trans stop) (not_le.mpr empty)
    · exact ⟨startKept.trans (Int.cast_le.mpr start), (Int.cast_le.mpr stop).trans stopKept⟩

end Comparison

section Moved

/-! Which fractions lie on the same side of their saturated value. -/

variable {low high : Int} {value first last : K}

/-- A value is not raised exactly when it reaches the range and is whole or not negative. -/
theorem saturate_le_iff (lower : low ≤ 0) (upper : 0 ≤ high) :
    (saturate low high value : K) ≤ value ↔
      low ≤ value ∧ (0 ≤ value ∨ ∃ integer : Int, value = integer) := by
  have bounded : ((low : Int) : K) ≤ saturate low high value := Int.cast_le.mpr low_le_saturate
  constructor
  · intro kept
    refine ⟨bounded.trans kept, ?_⟩
    rcases le_or_gt 0 value with nonneg | negative
    · exact Or.inl nonneg
    · have less : saturate low high value < high := by
        have under : saturate low high value < 0 := by exact_mod_cast lt_of_le_of_lt kept negative
        exact lt_of_lt_of_le under upper
      have cut : truncate value ≤ saturate low high value :=
        (truncate_le_saturate (lower.trans upper) value).resolve_left less.ne
      have cast : (truncate value : K) ≤ saturate low high value := Int.cast_le.mpr cut
      exact Or.inr ⟨truncate value, le_antisymm (le_truncate negative.le) (cast.trans kept)⟩
  · rintro ⟨above, nonneg | ⟨integer, rfl⟩⟩
    · rcases saturate_le_truncate low high value with same | cut
      · rw [same]
        exact above
      · exact (Int.cast_le.mpr cut).trans (truncate_le nonneg)
    · have inside : low ≤ integer := Int.cast_le.mp above
      rw [saturate, truncate_intCast]
      exact Int.cast_le.mpr (max_le inside (min_le_left _ _))

/-- A value is not lowered exactly when it stays in the range and is whole or not positive. -/
theorem le_saturate_iff (lower : low ≤ 0) (upper : 0 ≤ high) :
    value ≤ (saturate low high value : K) ↔
      value ≤ high ∧ (value ≤ 0 ∨ ∃ integer : Int, value = integer) := by
  have ordered : low ≤ high := lower.trans upper
  have bounded : (saturate low high value : K) ≤ high := Int.cast_le.mpr (saturate_le_high ordered)
  constructor
  · intro kept
    refine ⟨kept.trans bounded, ?_⟩
    rcases le_or_gt value 0 with nonpos | positive
    · exact Or.inl nonpos
    · have more : low < saturate low high value := by
        have greater : 0 < saturate low high value := by exact_mod_cast lt_of_lt_of_le positive kept
        exact lt_of_le_of_lt lower greater
      have cut : saturate low high value ≤ truncate value :=
        (saturate_le_truncate low high value).resolve_left more.ne'
      have cast : (saturate low high value : K) ≤ truncate value := Int.cast_le.mpr cut
      exact Or.inr ⟨truncate value, le_antisymm (kept.trans cast) (truncate_le positive.le)⟩
  · rintro ⟨below, nonpos | ⟨integer, rfl⟩⟩
    · rcases truncate_le_saturate ordered value with same | cut
      · rw [same]
        exact below
      · exact (le_truncate nonpos).trans (Int.cast_le.mpr cut)
    · have inside : integer ≤ high := Int.cast_le.mp below
      rw [saturate, truncate_intCast, min_eq_left inside]
      exact Int.cast_le.mpr (le_max_right _ _)

/-- Exactly the integers of the range are kept. -/
theorem saturate_eq_iff (lower : low ≤ 0) (upper : 0 ≤ high) :
    (saturate low high value : K) = value ↔
      low ≤ value ∧ value ≤ high ∧ ∃ integer : Int, value = integer := by
  constructor
  · intro same
    have above := (saturate_le_iff lower upper).mp same.le
    have below := (le_saturate_iff lower upper).mp same.ge
    exact ⟨above.1, below.1, _, same.symm⟩
  · rintro ⟨above, below, integer, rfl⟩
    rw [saturate_intCast (Int.cast_le.mp above) (Int.cast_le.mp below)]

/-- An integer of the range, other than zero, separates the two fractions. -/
def Separated (low high : Int) (last first : K) : Prop :=
  ∃ integer : Int, 0 < integer ∧ integer ≤ high ∧ last < integer ∧ (integer : K) ≤ first ∨
    integer < 0 ∧ low ≤ integer ∧ last ≤ integer ∧ (integer : K) < first

/-- A positive result comes from a value that is not negative. -/
theorem nonneg_of_saturate_pos (lower : low ≤ 0) (positive : 0 < saturate low high value) :
    0 ≤ value := by
  by_contra! negative
  have cut : truncate value ≤ 0 := by
    have near : (truncate value : K) < 1 := by linarith [truncate_sub_one_lt value]
    exact Int.lt_add_one_iff.mp (by exact_mod_cast near)
  unfold saturate at positive
  omega

/-- A negative result comes from a value that is not positive. -/
theorem nonpos_of_saturate_neg (upper : 0 ≤ high) (negative : saturate low high value < 0) :
    value ≤ 0 := by
  by_contra! positive
  have cut : 0 ≤ truncate value := by
    have near : (-1 : K) < truncate value := by linarith [lt_truncate_add_one value]
    exact Int.add_one_le_iff.mpr (by exact_mod_cast near)
  unfold saturate at negative
  omega

/-- Two results that differ leave an integer between their values. -/
theorem separated_of_saturate_lt (lower : low ≤ 0) (upper : 0 ≤ high)
    (less : saturate low high last < saturate low high first) : Separated low high last first := by
  have ordered : low ≤ high := lower.trans upper
  have next : (saturate low high last : K) + 1 ≤ saturate low high first := by exact_mod_cast less
  rcases lt_or_ge 0 (saturate low high first) with positive | nonpos
  · have above : 0 ≤ first := nonneg_of_saturate_pos lower positive
    have after : last < saturate low high last + 1 :=
      lt_saturate_add_one ordered (less.trans_le (saturate_le_high ordered))
    have kept : (saturate low high first : K) ≤ first :=
      (saturate_le_iff lower upper).mpr ⟨(Int.cast_nonpos.mpr lower).trans above, Or.inl above⟩
    exact ⟨_, Or.inl ⟨positive, saturate_le_high ordered, after.trans_le next, kept⟩⟩
  · have negative : saturate low high last < 0 := less.trans_le nonpos
    have below : last ≤ 0 := nonpos_of_saturate_neg upper negative
    have before : (saturate low high first : K) - 1 < first :=
      saturate_sub_one_lt (low_le_saturate.trans_lt less)
    have kept : last ≤ (saturate low high last : K) :=
      (le_saturate_iff lower upper).mpr ⟨below.trans (Int.cast_nonneg upper), Or.inl below⟩
    exact ⟨_, Or.inr ⟨negative, low_le_saturate, kept, by linarith⟩⟩

/-- Two values that an integer separates have different results. -/
theorem saturate_lt_of_separated (lower : low ≤ 0) (upper : 0 ≤ high)
    (separated : Separated low high last first) :
    saturate low high last < saturate low high first := by
  have ordered : low ≤ high := lower.trans upper
  obtain ⟨integer, ⟨positive, below, after, before⟩ | ⟨negative, above, after, before⟩⟩ := separated
  · have reached : integer ≤ saturate low high first := by
      by_contra! less
      have near : first < saturate low high first + 1 :=
        lt_saturate_add_one ordered (less.trans_le below)
      have next : (saturate low high first : K) + 1 ≤ integer := by exact_mod_cast less
      linarith
    have short : saturate low high last < integer := by
      by_contra! more
      have nonneg : 0 ≤ last := nonneg_of_saturate_pos lower (positive.trans_le more)
      have kept : (saturate low high last : K) ≤ last :=
        (saturate_le_iff lower upper).mpr ⟨(Int.cast_nonpos.mpr lower).trans nonneg, Or.inl nonneg⟩
      have far : (integer : K) ≤ saturate low high last := Int.cast_le.mpr more
      linarith
    exact short.trans_le reached
  · have short : saturate low high last ≤ integer := by
      by_contra! more
      have near : (saturate low high last : K) - 1 < last :=
        saturate_sub_one_lt (above.trans_lt more)
      have next : (integer : K) + 1 ≤ saturate low high last := by exact_mod_cast more
      linarith
    have reached : integer < saturate low high first := by
      by_contra! less
      have nonpos : first ≤ 0 := nonpos_of_saturate_neg upper (less.trans_lt negative)
      have kept : first ≤ (saturate low high first : K) :=
        (le_saturate_iff lower upper).mpr ⟨nonpos.trans (Int.cast_nonneg upper), Or.inl nonpos⟩
      have far : (saturate low high first : K) ≤ integer := Int.cast_le.mpr less
      linarith
    exact short.trans_lt reached

/-- The results are ordered strictly exactly when an integer separates the values. -/
theorem saturate_lt_iff (lower : low ≤ 0) (upper : 0 ≤ high) :
    saturate low high last < saturate low high first ↔ Separated low high last first :=
  ⟨separated_of_saturate_lt lower upper, saturate_lt_of_separated lower upper⟩

end Moved

end Truncation
