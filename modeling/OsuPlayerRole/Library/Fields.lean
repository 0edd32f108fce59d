/-
This file gives texts that hold several fields between separators.
-/
import Mathlib.Algebra.Group.Nat.Defs
import Mathlib.Algebra.GroupWithZero.Nat
import Mathlib.Data.List.TakeWhile

namespace Fields

variable {Symbol : Type} [DecidableEq Symbol]

/-- One separator stands between two fields. -/
def join (separator : Symbol) (fields : List (List Symbol)) : List Symbol :=
  List.intercalate [separator] fields

/-- The text is cut at its first separators. The last field is the remainder. -/
def splitN (separator : Symbol) : Nat → List Symbol → List (List Symbol)
  | 0, _ => []
  | 1, text => [text]
  | count + 2, text =>
      match text.dropWhile (fun symbol => symbol ≠ separator) with
      | [] => [text]
      | _ :: back =>
          text.takeWhile (fun symbol => symbol ≠ separator) :: splitN separator (count + 1) back

variable {separator : Symbol}

omit [DecidableEq Symbol] in
theorem join_cons (field : List Symbol) {fields : List (List Symbol)} (more : fields ≠ []) :
    join separator (field :: fields) = field ++ separator :: join separator fields := by
  unfold join
  rw [List.intercalate_cons_of_ne_nil more, List.append_assoc]
  rfl

omit [DecidableEq Symbol] in
/-- A text of fields becomes one field when another field follows. -/
theorem join_snoc {fields : List (List Symbol)} (present : fields ≠ []) (last : List Symbol) :
    join separator [join separator fields, last] = join separator (fields ++ [last]) := by
  have pair : ∀ field : List Symbol, join separator [field, last] = field ++ separator :: last := by
    intro field
    rw [join_cons field (List.cons_ne_nil last [])]
    exact congrArg _ (congrArg _ List.intercalate_singleton)
  rw [pair]
  induction fields with
  | nil => exact absurd rfl present
  | cons field rest ih =>
      cases rest with
      | nil =>
          rw [List.singleton_append, pair]
          exact congrArg (fun front => front ++ separator :: last) List.intercalate_singleton
      | cons second others =>
          rw [List.cons_append, join_cons field (List.cons_ne_nil second others),
            join_cons field (by simp), ← ih (List.cons_ne_nil second others), List.append_assoc]
          rfl

theorem splitN_ne_nil (count : Nat) (text : List Symbol) : splitN separator (count + 1) text ≠ [] := by
  cases count with
  | zero => exact List.cons_ne_nil _ _
  | succ count =>
      unfold splitN
      split <;> exact List.cons_ne_nil _ _

/-- The text up to a separator and the text behind it make up the whole. -/
theorem cut {text back : List Symbol} {symbol : Symbol}
    (found : text.dropWhile (fun symbol => symbol ≠ separator) = symbol :: back) :
    text = text.takeWhile (fun symbol => symbol ≠ separator) ++ separator :: back := by
  have same : symbol = separator := by
    have stopped := List.head?_dropWhile_not (fun symbol : Symbol => decide (symbol ≠ separator)) text
    rw [found, List.head?_cons] at stopped
    simpa using stopped
  subst same
  rw [← found, List.takeWhile_append_dropWhile]

theorem join_splitN (count : Nat) (text : List Symbol) :
    join separator (splitN separator (count + 1) text) = text := by
  induction count generalizing text with
  | zero => exact List.intercalate_singleton
  | succ count ih =>
      unfold splitN
      split
      · exact List.intercalate_singleton
      · next symbol back found =>
          rw [join_cons _ (splitN_ne_nil count back), ih back]
          exact (cut found).symm

/-- Every field but the remainder is free of separators. -/
theorem splitN_clean (count : Nat) (text : List Symbol) :
    ∀ field ∈ (splitN separator count text).dropLast, separator ∉ field := by
  induction count generalizing text with
  | zero => simp [splitN]
  | succ count ih =>
      cases count with
      | zero => simp [splitN]
      | succ count =>
          unfold splitN
          split
          · simp
          · next symbol back found =>
              rw [List.dropLast_cons_of_ne_nil (splitN_ne_nil count back)]
              intro field member
              obtain rfl | later := List.mem_cons.mp member
              · intro inside
                simpa using List.mem_takeWhile_imp inside
              · exact ih back field later

/-- Clean fields are recovered from their text. -/
theorem splitN_join {fields : List (List Symbol)} (present : fields ≠ [])
    (clean : ∀ field ∈ fields.dropLast, separator ∉ field) :
    splitN separator fields.length (join separator fields) = fields := by
  induction fields with
  | nil => exact absurd rfl present
  | cons field rest ih =>
      cases rest with
      | nil => simp [splitN, join]
      | cons second others =>
          rw [List.dropLast_cons_of_ne_nil (List.cons_ne_nil second others)] at clean
          have passes : ∀ symbol ∈ field, decide (symbol ≠ separator) = true := by
            intro symbol inside
            have different : symbol ≠ separator := fun same =>
              clean field List.mem_cons_self (same ▸ inside)
            simpa using different
          have tail := ih (List.cons_ne_nil _ _) fun other member =>
            clean other (List.mem_cons_of_mem field member)
          rw [join_cons field (List.cons_ne_nil second others), List.length_cons, List.length_cons,
            splitN, List.dropWhile_append_of_pos passes, List.takeWhile_append_of_pos passes]
          simp only [ne_eq, not_true_eq_false, decide_false, Bool.false_eq_true, not_false_eq_true,
            List.dropWhile_cons_of_neg, List.takeWhile_cons_of_neg, List.append_nil]
          exact congrArg _ tail

/-- Each field adds its own separators to those between the fields. -/
theorem count_join {fields : List (List Symbol)} (present : fields ≠ []) :
    (join separator fields).count separator + 1 =
      (fields.map (List.count separator)).sum + fields.length := by
  induction fields with
  | nil => exact absurd rfl present
  | cons field rest ih =>
      cases rest with
      | nil => simp [join]
      | cons second others =>
          have tail := ih (List.cons_ne_nil _ _)
          rw [join_cons field (List.cons_ne_nil second others), List.count_append,
            List.count_cons_self, List.map_cons, List.sum_cons, List.length_cons]
          omega

/-- A text of clean fields is the text of no more fields. -/
theorem length_le_of_join {fields others : List (List Symbol)} (present : fields ≠ [])
    (clean : ∀ field ∈ fields, separator ∉ field)
    (equal : join separator fields = join separator others) : others.length ≤ fields.length := by
  by_cases otherPresent : others = []
  · rw [otherPresent]
    exact Nat.zero_le _
  · have own := @count_join _ _ separator _ present
    have total := @count_join _ _ separator _ otherPresent
    have zero : (fields.map (List.count separator)).sum = 0 := by
      rw [List.sum_eq_zero_iff_forall_eq_nat]
      intro count member
      obtain ⟨field, inside, rfl⟩ := List.mem_map.mp member
      exact List.count_eq_zero.mpr (clean field inside)
    rw [equal] at own
    omega

/-- A text of clean fields is the text of no other fields of the same number. -/
theorem join_injective {fields others : List (List Symbol)} (clean : ∀ field ∈ fields, separator ∉ field)
    (same : fields.length = others.length) (equal : join separator fields = join separator others) :
    fields = others := by
  by_cases present : fields = []
  · subst present
    exact (List.length_eq_zero_iff.mp same.symm).symm
  · have otherPresent : others ≠ [] := fun none => present (List.length_eq_zero_iff.mp (by rw [same, none]; rfl))
    have total := @count_join _ _ separator _ otherPresent
    have own := @count_join _ _ separator _ present
    have zero : (fields.map (List.count separator)).sum = 0 := by
      rw [List.sum_eq_zero_iff_forall_eq_nat]
      intro count member
      obtain ⟨field, inside, rfl⟩ := List.mem_map.mp member
      exact List.count_eq_zero.mpr (clean field inside)
    have otherZero : (others.map (List.count separator)).sum = 0 := by
      rw [equal] at own
      omega
    have otherClean : ∀ field ∈ others, separator ∉ field := by
      intro field inside
      exact List.count_eq_zero.mp
        (List.sum_eq_zero_iff_forall_eq_nat.mp otherZero _ (List.mem_map.mpr ⟨field, inside, rfl⟩))
    rw [← List.splitOn_intercalate separator clean present,
      ← List.splitOn_intercalate separator otherClean otherPresent]
    exact congrArg (List.splitOn separator) equal

end Fields
