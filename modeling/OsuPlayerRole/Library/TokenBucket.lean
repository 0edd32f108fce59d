/-
This file gives the limiter that grants a burst and then one permit in each period.
-/
import Mathlib.Data.List.Count

namespace TokenBucket

/-- The numbers of a limiter. -/
structure Quota where
  burst : Int
  period : Int
  someBurst : 1 ≤ burst
  somePeriod : 1 ≤ period

/-- The limiter keeps the instant at which all of its permits are back. Before the first permit there is
none. -/
structure Bucket where
  full : Option Int

def Bucket.fresh : Bucket := ⟨none⟩

variable (quota : Quota)

/-- A permit is granted when at least one is back, and it is back one period later. -/
def check (now : Int) (bucket : Bucket) : Option Bucket :=
  match bucket.full with
  | none => some ⟨some (now + quota.period)⟩
  | some full =>
      if full ≤ now + (quota.burst - 1) * quota.period then some ⟨some (max full now + quota.period)⟩
      else none

/-- The number of instants from the first one on. -/
def since (start : Int) (times : List Int) : Nat := times.countP fun time => start ≤ time

/-- The number of instants between the two. -/
def within (start stop : Int) (times : List Int) : Nat :=
  times.countP fun time => start ≤ time && time ≤ stop

/-- Between any two instants there are a burst and one more for each period at most. -/
def Bounded (times : List Int) : Prop :=
  ∀ start stop, start ≤ stop →
    quota.period * within start stop times ≤ quota.burst * quota.period + (stop - start)

/-- The bucket is full again only after the permits since any instant are back. -/
def Charges (bucket : Bucket) (times : List Int) : Prop :=
  ∀ start, 0 < since start times →
    ∃ full ∈ bucket.full, start + quota.period * since start times ≤ full

section Counting

variable {start stop now : Int} {times : List Int}

/-- One more charge counts when it falls on or after the start. -/
theorem since_append : since start (times ++ [now]) = since start times + if start ≤ now then 1 else 0 := by
  rw [since, List.countP_append, List.countP_singleton]
  simp [since]

/-- A charge after the window changes nothing in it. -/
theorem within_append_of_lt (late : stop < now) : within start stop (times ++ [now]) = within start stop times := by
  rw [within, List.countP_append, List.countP_singleton]
  simp [within, late]

/-- A window holds no more charges than the time after its start. -/
theorem within_le_since : within start stop times ≤ since start times := by
  refine List.countP_mono_left fun time _ inside => ?_
  exact (Bool.and_eq_true_iff.mp inside).1

/-- The instants before a bound and those after it are all. -/
theorem since_split (stop : Int) (order : start ≤ stop) :
    since start times = within start stop times + since (stop + 1) times := by
  induction times with
  | nil => rfl
  | cons time rest ih =>
      unfold since within at ih ⊢
      rw [List.countP_cons, List.countP_cons, List.countP_cons, ih]
      by_cases early : time ≤ stop
      · have notLate : ¬stop + 1 ≤ time := by omega
        simp [early, notLate]
        omega
      · have late : stop + 1 ≤ time := by omega
        have inside : start ≤ time := by omega
        simp [early, late, inside]
        omega

theorem since_eq_zero (past : ∀ time ∈ times, time ≤ stop) (late : stop < start) : since start times = 0 := by
  refine List.countP_eq_zero.mpr fun time member => ?_
  have bound := past time member
  simp
  omega

/-- A later start leaves no more charges. -/
theorem since_mono {later : Int} (order : start ≤ later) : since later times ≤ since start times := by
  refine List.countP_mono_left fun time _ inside => ?_
  rw [decide_eq_true_eq] at inside ⊢
  omega

end Counting

section Grants

variable {quota} {bucket after : Bucket} {now start : Int} {times : List Int}

/-- More instants take more periods. -/
theorem Quota.scale (quota : Quota) {fewer more : Int} (order : fewer ≤ more) :
    quota.period * fewer ≤ quota.period * more :=
  Int.mul_le_mul_of_nonneg_left order (Int.le_trans (by decide) quota.somePeriod)

theorem bounded_nil : Bounded quota [] := by
  intro start stop order
  have positive := quota.scale (Int.le_trans (by decide) quota.someBurst : 0 ≤ quota.burst)
  rw [Int.mul_comm quota.period quota.burst] at positive
  have none_yet : within start stop [] = 0 := rfl
  rw [none_yet]
  omega

theorem charges_fresh : Charges quota .fresh [] := by
  intro start counted
  cases counted

/-- A granted permit is charged. -/
theorem charges_check (charges : Charges quota bucket times) (granted : check quota now bucket = some after) :
    Charges quota after (times ++ [now]) := by
  have onePeriod := quota.somePeriod
  intro start counted
  rw [since_append] at counted ⊢
  unfold check at granted
  split at granted
  · next unused =>
      -- No permit has been charged before.
      have none_yet : since start times = 0 := by
        by_contra charged
        obtain ⟨full, present, _⟩ := charges start (Nat.pos_of_ne_zero charged)
        rw [unused] at present
        cases present
      cases granted
      refine ⟨_, rfl, ?_⟩
      rw [none_yet] at counted ⊢
      split at counted
      · next early =>
          rw [if_pos early]
          omega
      · cases counted
  · next full present =>
      split at granted
      · cases granted
        refine ⟨_, rfl, ?_⟩
        by_cases charged : 0 < since start times
        · obtain ⟨owed, same, behind⟩ := charges start charged
          rw [present] at same
          cases same
          split
          · rw [Int.natCast_add, Int.mul_add]
            omega
          · rw [Nat.add_zero]
            omega
        · have none_yet : since start times = 0 := Nat.eq_zero_of_not_pos charged
          rw [none_yet] at counted ⊢
          split at counted
          · next early =>
              rw [if_pos early]
              omega
          · cases counted
      · cases granted

/-- The limiter is never more than a burst behind. -/
theorem full_le_of_check (granted : check quota now bucket = some after) :
    ∀ full ∈ after.full, full ≤ now + quota.burst * quota.period := by
  have oneBurst := quota.scale quota.someBurst
  rw [Int.mul_one, Int.mul_comm quota.period quota.burst] at oneBurst
  intro full present
  unfold check at granted
  split at granted
  · cases granted
    cases present
    omega
  · split at granted
    · next back =>
        cases granted
        cases present
        rw [Int.sub_mul, Int.one_mul] at back
        omega
    · cases granted

/-- One limiter keeps the bound up to a permit. -/
theorem since_of_check (charges : Charges quota bucket times)
    (granted : check quota now bucket = some after) (order : start ≤ now) :
    quota.period * since start (times ++ [now]) ≤ quota.burst * quota.period + (now - start) := by
  have counted : 0 < since start (times ++ [now]) := by
    rw [since_append, if_pos order]
    omega
  obtain ⟨full, present, behind⟩ := charges_check charges granted start counted
  have bound := full_le_of_check granted full present
  omega

/-- Less than a burst in the time of a burst leaves room for one more. -/
theorem since_of_few (bounded : Bounded quota times)
    (few : since (now - quota.burst * quota.period + 1) times < quota.burst) (order : start ≤ now) :
    quota.period * since start (times ++ [now]) ≤ quota.burst * quota.period + (now - start) := by
  have room := quota.scale (Int.add_one_le_of_lt few)
  rw [Int.mul_comm quota.period quota.burst] at room
  rw [since_append, if_pos order]
  by_cases recent : now - quota.burst * quota.period < start
  · have fewer : since start times ≤ since (now - quota.burst * quota.period + 1) times :=
      since_mono (Int.add_one_le_of_lt recent)
    have one_more : ((since start times + 1 : Nat) : Int) ≤
        since (now - quota.burst * quota.period + 1) times + 1 := by omega
    have scaled := quota.scale one_more
    omega
  · have longer : start ≤ now - quota.burst * quota.period := by omega
    have split := @since_split start times _ longer
    have older := bounded start (now - quota.burst * quota.period) (by omega)
    rw [split, Int.natCast_add, Int.natCast_add, Int.mul_add, Int.mul_add]
    rw [Int.mul_add] at room
    omega

/-- An instant keeps the bound when the windows up to it do. -/
theorem bounded_append (bounded : Bounded quota times)
    (kept : ∀ start ≤ now, quota.period * since start (times ++ [now]) ≤
      quota.burst * quota.period + (now - start))
    (past : ∀ time ∈ times, time ≤ now) : Bounded quota (times ++ [now]) := by
  intro start stop order
  by_cases late : stop < now
  · rw [within_append_of_lt late]
    exact bounded start stop order
  · have scaled := quota.scale (Int.ofNat_le.mpr (@within_le_since start stop (times ++ [now])))
    by_cases early : start ≤ now
    · have bound := kept start early
      omega
    · have all : ∀ time ∈ times ++ [now], time ≤ now := by
        intro time member
        rcases List.mem_append.mp member with old | new
        · exact past time old
        · exact Int.le_of_eq (List.mem_singleton.mp new)
      have empty := since_eq_zero all (Int.not_le.mp early)
      have positive := @bounded_nil quota start stop order
      rw [empty, Int.natCast_zero, Int.mul_zero] at scaled
      rw [show within start stop [] = 0 from rfl, Int.natCast_zero, Int.mul_zero] at positive
      omega

end Grants

end TokenBucket
