/-
This file shows when a normalized number keeps the meaning of the number in the body.
-/
import Mathlib.Data.Rat.Floor
import Mathlib.Tactic.NormNum
import OsuPlayerRole.Construction.Services.ConditionEval
import OsuPlayerRole.Library.Truncation
import OsuPlayerRole.Proof.Rule.WellFormedTree

namespace OsuPlayerRole.Json

open Truncation

/-- The exact value of a float. -/
def F64.exact (value : F64) : ℚ :=
  (if value.negative then -1 else 1) * (value.mantissa.val * 2 ^ value.exponent)

/-- The exact value of a number, as it was parsed. -/
def Number.exact : Number → ℚ
  | .posInt value => value.val
  | .negInt below => -(below.val + 1)
  | .float value => value.exact

/-- The fraction as `i64`. -/
abbrev toI64 (value : ℚ) : Int := saturate (-2 ^ 63) (2 ^ 63 - 1) value

/-- An integer of 64 bits is stored as it is. -/
theorem toI64_intCast {integer : Int} (lower : -2 ^ 63 ≤ integer) (upper : integer < 2 ^ 63) :
    toI64 integer = integer :=
  saturate_intCast lower (Int.le_sub_one_of_lt upper)

/-- The cut magnitude of a float. -/
theorem truncate_magnitude (mantissa : Nat) (exponent : Int) :
    truncate ((mantissa : ℚ) * 2 ^ exponent) =
      (if 0 ≤ exponent then mantissa * 2 ^ exponent.toNat
        else mantissa / 2 ^ (-exponent).toNat : Nat) := by
  split
  · next nonneg =>
      have power : (2 : ℚ) ^ exponent = 2 ^ exponent.toNat := by
        rw [← zpow_natCast, Int.toNat_of_nonneg nonneg]
      have whole : (mantissa : ℚ) * 2 ^ exponent = ((mantissa * 2 ^ exponent.toNat : Nat) : Int) := by
        rw [power]
        push_cast
        rfl
      rw [whole, truncate_intCast]
  · next negative =>
      have power : (2 : ℚ) ^ exponent = ((2 ^ (-exponent).toNat : Nat) : ℚ)⁻¹ := by
        push_cast
        rw [← zpow_natCast, Int.toNat_of_nonneg (by omega), zpow_neg, inv_inv]
      have nonneg : (0 : ℚ) ≤ mantissa * 2 ^ exponent :=
        mul_nonneg (Nat.cast_nonneg _) (zpow_nonneg zero_le_two _)
      rw [truncate, if_pos nonneg, power, ← div_eq_mul_inv, Rat.floor_natCast_div_natCast]
      exact (Int.natCast_ediv _ _).symm

/-- The cast of a float is the saturated truncation of its exact value. -/
theorem F64.asI64_exact (value : F64) : value.asI64 = toI64 value.exact := by
  have magnitude := truncate_magnitude value.mantissa.val value.exponent
  unfold F64.asI64 F64.exact toI64 saturate
  dsimp only
  cases value.negative with
  | true =>
      rw [if_pos rfl, if_pos rfl, neg_one_mul, truncate_neg, magnitude]
  | false =>
      rw [if_neg Bool.false_ne_true, if_neg Bool.false_ne_true, one_mul, magnitude]

/-- The rounded quotient is not below the cut one. -/
theorem le_roundedQuotient (value shift : Nat) : value / 2 ^ shift ≤ F64.roundedQuotient value shift := by
  unfold F64.roundedQuotient
  dsimp only
  split
  · exact Nat.le_succ _
  · exact le_refl _

/-- An integer beyond `i64` is rounded to a float that is not below `2 ^ 63`. -/
theorem F64.asI64_ofMagnitude {value : Fin (2 ^ 64)} (large : 2 ^ 63 ≤ value.val) :
    (F64.ofMagnitude false value).asI64 = 2 ^ 63 - 1 := by
  have log : Nat.log2 value.val = 63 :=
    (Nat.log2_eq_iff (by omega)).mpr ⟨large, value.isLt⟩
  have quotient : 2 ^ 52 ≤ F64.roundedQuotient value.val (Nat.log2 value.val - 52) := by
    refine le_trans ?_ (le_roundedQuotient _ _)
    rw [log]
    omega
  unfold F64.ofMagnitude
  rw [dif_neg (by omega)]
  dsimp only
  split
  · unfold F64.asI64
    dsimp only
    rw [if_neg Bool.false_ne_true, if_pos (Int.natCast_nonneg _), Int.toNat_natCast, log]
    rw [log] at quotient
    have bound : 2 ^ 52 * 2 ^ 11 ≤ F64.roundedQuotient value.val (63 - 52) * 2 ^ (63 - 52) :=
      Nat.mul_le_mul_right _ quotient
    omega
  · unfold F64.asI64
    dsimp only
    have carried : (((Nat.log2 value.val - 52 : Nat) : Int) + 1).toNat = 12 := by
      rw [log]
      rfl
    rw [if_neg Bool.false_ne_true, if_pos (by omega), carried]
    decide

/-- A larger number is stored as the greatest integer. -/
theorem toI64_large {value : Int} (large : 2 ^ 63 ≤ value) : toI64 value = 2 ^ 63 - 1 := by
  unfold toI64 saturate
  rw [truncate_intCast]
  omega

/-- A number is stored as its saturated truncation. -/
theorem Number.stored (number : Number) :
    number.asI64.or (some number.asF64.asI64) = some (toI64 number.exact) := by
  cases number with
  | posInt value =>
      change (if value.val < 2 ^ 63 then some (value.val : Int) else none).or
        (some (F64.ofMagnitude false value).asI64) = some (toI64 ((value.val : Int) : ℚ))
      split
      · next small => exact congrArg some (toI64_intCast (by omega) (by omega)).symm
      · next large =>
          rw [Option.none_or, F64.asI64_ofMagnitude (Nat.not_lt.mp large), toI64_large (by omega)]
  | negInt below =>
      have cast : (Number.negInt below).exact = ((-(below.val + 1) : Int) : ℚ) := by
        push_cast
        rfl
      rw [cast, toI64_intCast (by omega) (by omega)]
      rfl
  | float value => exact congrArg some value.asI64_exact

end OsuPlayerRole.Json

namespace OsuPlayerRole.RuleValidator

open Json ConditionEval Truncation

/-- The number that an integer condition was given, as it was parsed. A text spells an integer. -/
def typed : Value → Option ℚ
  | .number number => some number.exact
  | .string text =>
      (RustText.parseI64 (RustText.trim text)).map fun integer => (integer : ℚ)
  | _ => none

/-- The stored integer is the cut and clamped number. -/
theorem integerOf_typed (raw : Value) : integerOf raw = (typed raw).map toI64 := by
  cases raw with
  | number number => exact number.stored
  | string text =>
      change RustText.parseI64 (RustText.trim text) = _
      unfold typed
      dsimp only
      cases parsed : RustText.parseI64 (RustText.trim text) with
      | none => rfl
      | some integer =>
          have inside := RustText.parseI64_range parsed
          exact congrArg some (toI64_intCast inside.1 inside.2).symm
  | null => rfl
  | bool flag => rfl
  | array items => rfl
  | object fields => rfl

/-- The comparison with the numbers as they were parsed. -/
def TypedHolds (operator : ConditionOperator) (first : ℚ) (last : Option ℚ) (actual : Int) : Prop :=
  match operator with
  | .eq => (actual : ℚ) = first
  | .neq => (actual : ℚ) ≠ first
  | .gt => first < actual
  | .gte => first ≤ actual
  | .lt => (actual : ℚ) < first
  | .lte => (actual : ℚ) ≤ first
  | .between => first ≤ actual ∧ ∀ bound ∈ last, (actual : ℚ) ≤ bound
  | _ => False

/-- The number is at least the least integer, and it is a whole number or not negative. -/
def NotRaised (value : ℚ) : Prop :=
  (-2 ^ 63 : Int) ≤ value ∧ (0 ≤ value ∨ ∃ integer : Int, value = integer)

/-- The number is at most the greatest integer, and it is a whole number or not positive. -/
def NotLowered (value : ℚ) : Prop :=
  value ≤ (2 ^ 63 - 1 : Int) ∧ (value ≤ 0 ∨ ∃ integer : Int, value = integer)

/-- The number is a whole number of the range. -/
def Whole (value : ℚ) : Prop :=
  (-2 ^ 63 : Int) ≤ value ∧ value ≤ (2 ^ 63 - 1 : Int) ∧ ∃ integer : Int, value = integer

/-- The numbers of the body select the same integers as the stored ones. -/
def MeaningKept (operator : ConditionOperator) (first : ℚ) (last : Option ℚ) : Prop :=
  match operator with
  | .eq | .neq => Whole first
  | .gt | .lte => NotRaised first
  | .gte | .lt => NotLowered first
  | .between => ∀ bound ∈ last,
      Separated (-2 ^ 63) (2 ^ 63 - 1) bound first ∨ NotLowered first ∧ NotRaised bound
  | _ => True

section Meaning

variable {operator : ConditionOperator} {target : ConditionTarget} {first last : ℚ} {actual : Int}

/-- The stored integer fits 64 bits. -/
theorem toI64_range (value : ℚ) : InI64 (toI64 value) :=
  ⟨low_le_saturate, Int.lt_of_le_sub_one (saturate_le_high (by decide))⟩

/-- The stored integer is read back. -/
theorem asI64_toI64 (value : ℚ) : (Value.ofI64 (toI64 value)).asI64 = some (toI64 value) :=
  Value.asI64_ofI64 (toI64_range value).1 (toI64_range value).2

/-- The range of `i64` with its greatest value. -/
theorem forall_inI64 {property : Int → Prop} :
    (∀ actual, InI64 actual → property actual) ↔
      ∀ actual, -2 ^ 63 ≤ actual → actual ≤ 2 ^ 63 - 1 → property actual := by
  have range : ∀ actual, InI64 actual ↔ -2 ^ 63 ≤ actual ∧ actual ≤ 2 ^ 63 - 1 := by
    intro actual
    unfold InI64
    omega
  simp only [range, and_imp]

/-- Equality keeps its meaning exactly for whole numbers of the range. -/
theorem toI64_equal :
    (∀ actual, InI64 actual → (actual = toI64 first ↔ (actual : ℚ) = first)) ↔ Whole first := by
  rw [forall_inI64]
  exact (equal_iff (by decide)).trans (saturate_eq_iff (by decide) (by decide))

/-- An open lower bound keeps its meaning exactly when it was not raised. -/
theorem toI64_above :
    (∀ actual, InI64 actual → (toI64 first < actual ↔ first < actual)) ↔ NotRaised first := by
  rw [forall_inI64]
  exact (above_iff (by decide)).trans (saturate_le_iff (by decide) (by decide))

/-- An open upper bound keeps its meaning exactly when it was not lowered. -/
theorem toI64_below :
    (∀ actual, InI64 actual → (actual < toI64 first ↔ (actual : ℚ) < first)) ↔
      NotLowered first := by
  rw [forall_inI64]
  exact (below_iff (by decide)).trans (le_saturate_iff (by decide) (by decide))

/-- A range keeps its meaning exactly when it is empty or neither bound was moved outward. -/
theorem toI64_between :
    (∀ actual, InI64 actual →
      (toI64 first ≤ actual ∧ actual ≤ toI64 last ↔ first ≤ actual ∧ (actual : ℚ) ≤ last)) ↔
      Separated (-2 ^ 63) (2 ^ 63 - 1) last first ∨ NotLowered first ∧ NotRaised last := by
  rw [forall_inI64]
  exact (between_iff (by decide)).trans (or_congr (saturate_lt_iff (by decide) (by decide))
    (and_congr (le_saturate_iff (by decide) (by decide)) (saturate_le_iff (by decide) (by decide))))

/-- A comparison with one number keeps its meaning under the condition of its operator. -/
theorem single_meaning (valid : operator.validFor .int = true) (single : operator ≠ .between) :
    (∀ actual, InI64 actual →
      (intMatch ⟨target, operator, .ofI64 (toI64 first), none⟩ (some actual) = true ↔
        TypedHolds operator first none actual)) ↔ MeaningKept operator first none := by
  have operand := asI64_toI64 first
  cases operator with
  | eq =>
      refine Iff.trans (forall₂_congr fun actual _ => ?_) toI64_equal
      exact iff_congr (by simp [intMatch, operand]) Iff.rfl
  | neq =>
      refine Iff.trans (forall₂_congr fun actual _ => ?_) toI64_equal
      exact (iff_congr (by simp [intMatch, operand]) Iff.rfl).trans not_iff_not
  | gt =>
      refine Iff.trans (forall₂_congr fun actual _ => ?_) toI64_above
      exact iff_congr (by simp [intMatch, operand]) Iff.rfl
  | gte =>
      refine Iff.trans (forall₂_congr fun actual _ => ?_) toI64_below
      exact (iff_congr (by simp [intMatch, operand]) not_lt.symm).trans not_iff_not
  | lt =>
      refine Iff.trans (forall₂_congr fun actual _ => ?_) toI64_below
      exact iff_congr (by simp [intMatch, operand]) Iff.rfl
  | lte =>
      refine Iff.trans (forall₂_congr fun actual _ => ?_) toI64_above
      exact (iff_congr (by simp [intMatch, operand]) not_lt.symm).trans not_iff_not
  | between => exact absurd rfl single
  | contains => cases valid
  | regex => cases valid
  | isIn => cases valid
  | notIn => cases valid

/-- A range keeps its meaning under the condition of its bounds. -/
theorem range_meaning :
    (∀ actual, InI64 actual →
      (intMatch ⟨target, .between, .ofI64 (toI64 first), some (.ofI64 (toI64 last))⟩ (some actual) =
        true ↔ TypedHolds .between first (some last) actual)) ↔
      MeaningKept .between first (some last) := by
  have kept : MeaningKept .between first (some last) ↔
      Separated (-2 ^ 63) (2 ^ 63 - 1) last first ∨ NotLowered first ∧ NotRaised last := by
    simp [MeaningKept]
  rw [kept, ← toI64_between]
  refine forall₂_congr fun actual _ => iff_congr ?_ ?_
  · simp [intMatch, asI64_toI64]
  · simp [TypedHolds]

end Meaning

section Accepted

variable {engines : Engines} {body : RuleTreeBody} {tree : RuleTree} {raw : ConditionInput}
  {condition : Condition}

/-- The validator stores the cut and clamped number. -/
theorem normalizeInt_typed {location : String} {given value : Value}
    (normalized : normalizeInt engines location given = .ok value) :
    ∃ first, typed given = some first ∧ value = .ofI64 (toI64 first) := by
  obtain ⟨integer, read, rfl⟩ := normalizeInt_eq_ok.mp normalized
  rw [integerOf_typed] at read
  obtain ⟨first, found, rfl⟩ := Option.map_eq_some_iff.mp read
  exact ⟨first, found, rfl⟩

/-- An accepted integer condition selects the integers that its typed numbers select, exactly when
the conversion moved no bound that matters. -/
theorem number_meaning_kept (parsed : parseRuleTree engines body = .ok tree)
    (paired : Paired body tree raw condition) (kind : condition.target.kind = .int) :
    ∃ first, typed raw.value = some first ∧
      ((∀ actual, InI64 actual → (intMatch condition (some actual) = true ↔
        TypedHolds condition.operator first (raw.valueEnd.bind typed) actual)) ↔
        MeaningKept condition.operator first (raw.valueEnd.bind typed)) := by
  have validated : Validated engines raw condition := paired.validated parsed
  have normalized := validated.value ""
  have ended := validated.valueEnd ""
  have valid := validated.valid
  obtain ⟨target, operator, value, valueEnd⟩ := condition
  dsimp only at kind normalized ended valid ⊢
  rw [kind] at normalized ended valid
  obtain ⟨first, typedFirst, rfl⟩ := normalizeInt_typed normalized
  refine ⟨first, typedFirst, ?_⟩
  rcases normalizeEnd_ok ended with ⟨single, rfl⟩ | ⟨_, _, rfl, _, _⟩
  · have ignored : ∀ last, TypedHolds operator first last = TypedHolds operator first none ∧
        MeaningKept operator first last = MeaningKept operator first none := by
      intro last
      cases operator <;> first | exact ⟨rfl, rfl⟩ | exact absurd rfl single
    rw [(ignored _).1, (ignored _).2]
    exact single_meaning valid single
  · obtain ⟨given, bound, present, rfl, finished⟩ := normalizeEnd_between ended
    obtain ⟨last, typedLast, rfl⟩ := normalizeInt_typed finished
    rw [present, Option.bind_some, typedLast]
    exact range_meaning

end Accepted

def rankTree : RuleTree := ⟨false, .osu, [⟨[⟨.globalRank, .lte, .ofI64 1000, none⟩]⟩]⟩

/-- The bound 1000 for a rank keeps its meaning. -/
theorem rank_meaning_kept :
    parseRuleTree Sample.letterEngines (Sample.numberBody "global_rank" "lte" (.posInt 1000)) =
        .ok rankTree ∧
      ∀ actual, InI64 actual →
        (intMatch ⟨.globalRank, .lte, .ofI64 1000, none⟩ (some actual) = true ↔
          (actual : ℚ) ≤ 1000) := by
  have parsed : parseRuleTree Sample.letterEngines (Sample.numberBody "global_rank" "lte" (.posInt 1000)) =
      .ok rankTree := rfl
  refine ⟨parsed, ?_⟩
  obtain ⟨first, typedFirst, same⟩ :=
    number_meaning_kept parsed ⟨_, List.mem_singleton_self _, List.mem_singleton_self _⟩ rfl
  obtain rfl : (1000 : ℚ) = first := Option.some.inj typedFirst
  refine same.mpr ⟨?_, Or.inl ?_⟩
  · norm_num
  · norm_num

/-- The number 98.5. -/
def almostPerfect : F64 := ⟨false, 197, -1, by decide⟩

def accuracyTree : RuleTree := ⟨false, .osu, [⟨[⟨.hitAccuracy, .gte, .ofI64 98, none⟩]⟩]⟩

/-- The threshold 98.5 is saved as 98, and a player with 98 passes it. -/
theorem accuracy_threshold_lowered :
    parseRuleTree Sample.letterEngines (Sample.numberBody "hit_accuracy" "gte" (.float almostPerfect)) =
        .ok accuracyTree ∧
      ¬ ∀ (body : RuleTreeBody) (tree : RuleTree) (raw : ConditionInput) (condition : Condition),
        parseRuleTree Sample.letterEngines body = .ok tree → Paired body tree raw condition →
        condition.target.kind = .int → ∀ first ∈ typed raw.value, ∀ actual, InI64 actual →
          (intMatch condition (some actual) = true ↔
            TypedHolds condition.operator first (raw.valueEnd.bind typed) actual) := by
  have parsed : parseRuleTree Sample.letterEngines
      (Sample.numberBody "hit_accuracy" "gte" (.float almostPerfect)) = .ok accuracyTree := rfl
  refine ⟨parsed, fun kept => ?_⟩
  have passed : almostPerfect.exact ≤ ((98 : Int) : ℚ) :=
    (kept _ _ _ _ parsed ⟨_, List.mem_singleton_self _, List.mem_singleton_self _⟩ rfl _ rfl 98
      ⟨by decide, by decide⟩).mp rfl
  norm_num [F64.exact, almostPerfect] at passed

end OsuPlayerRole.RuleValidator
