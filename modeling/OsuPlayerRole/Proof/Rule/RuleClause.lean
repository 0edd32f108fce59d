/-
This file compares the clause of a whole tree with its evaluation on the facts.
-/
import OsuPlayerRole.Proof.Rule.ConditionClause

namespace OsuPlayerRole.RuleSql

open Json ThreeValued ConditionEval RuleValidator Sync

variable {engines : Engines} {now : Timestamp} {offset : Nat}

/-- Own binds in two parts are supplied part by part. -/
theorem supplies_append {parameters binds first second : List Bind}
    (supplies : Supplies parameters offset binds (first ++ second)) :
    Supplies parameters offset binds first ∧ Supplies parameters offset (binds ++ first) second := by
  constructor
  · intro position bind present
    have inside : position < first.length := (List.getElem?_eq_some_iff.mp present).1
    exact supplies position bind (by rw [List.getElem?_append_left inside, present])
  · intro position bind present
    have shifted := supplies (first.length + position) bind
      (by rw [List.getElem?_append_right (Nat.le_add_right _ _), Nat.add_sub_cancel_left, present])
    rwa [List.length_append, ← Nat.add_assoc, Nat.add_assoc]

/-- Each clause decides its condition in the row. -/
def ClausesDecide (engines : Engines) (now : Timestamp) (row : JoinedRow) (parameters : List Bind)
    (clauses : List Clause) (conditions : List Condition) : Prop :=
  List.Forall₂ (fun clause condition => Decides (clause.truth engines parameters now row)
    (evaluateSingle engines now condition (readRow row).facts = true)) clauses conditions

/-- The clauses decide their conditions in every readable row, and their binds can be sent. -/
def BuiltGroup (engines : Engines) (now : Timestamp) (conditions : List Condition) (offset : Nat)
    (binds : List Bind) (built : List Clause × List Bind) : Prop :=
  ∃ clauses own, built = (clauses, binds ++ own) ∧
    ((∀ condition ∈ conditions, condition.value.storable = true) →
      ∀ bind ∈ own, bind.sendable = true) ∧
    ∀ row parameters, Readable row → Past now row.user → Supplies parameters offset binds own →
      ClausesDecide engines now row parameters clauses conditions

theorem buildGroup_built (agrees : RegexAgrees engines) (conditions : List Condition)
    (shaped : ∀ condition ∈ conditions, Shaped engines condition)
    (present : ∀ condition ∈ conditions, HoldsText condition) (binds : List Bind) :
    BuiltGroup engines now conditions offset binds (buildGroup offset binds conditions) := by
  induction conditions generalizing binds with
  | nil => exact ⟨[], [], by simp [buildGroup], by simp, fun _ _ _ _ _ => .nil⟩
  | cons condition rest ih =>
      rw [List.forall_mem_cons] at shaped present
      have head : Built engines now condition offset binds (buildCondition offset binds condition) :=
        buildCondition_built agrees shaped.1 present.1
      obtain ⟨clause, first, built, sendable, decides⟩ := head
      obtain ⟨clauses, second, builtRest, sendableRest, decidesRest⟩ :=
        ih shaped.2 present.2 (binds ++ first)
      refine ⟨clause :: clauses, first ++ second, ?_, ?_, ?_⟩
      · rw [buildGroup, built]
        dsimp only
        rw [builtRest, List.append_assoc]
      · intro storable
        rw [List.forall_mem_cons] at storable
        rw [List.forall_mem_append]
        exact ⟨sendable storable.1, sendableRest storable.2⟩
      · intro row parameters readable past supplies
        obtain ⟨supplied, suppliedRest⟩ := supplies_append supplies
        exact .cons (decides row parameters readable past supplied)
          (decidesRest row parameters readable past suppliedRest)

/-- An accepted group is never empty, so its clause is a conjunction. -/
theorem groupTruth_decides {row : JoinedRow} {parameters : List Bind} {clauses : List Clause}
    {conditions : List Condition} (present : conditions ≠ [])
    (decides : ClausesDecide engines now row parameters clauses conditions) :
    Decides (groupTruth engines parameters now row clauses)
      (∀ condition ∈ conditions, evaluateSingle engines now condition (readRow row).facts = true) := by
  cases decides with
  | nil => exact absurd rfl present
  | cons head tail => exact all_decides (.cons head tail)

/-- The group clauses decide their groups in every readable row, and their binds can be sent. -/
def BuiltGroups (engines : Engines) (now : Timestamp) (groups : List ConditionGroup) (offset : Nat)
    (binds : List Bind) (built : List (List Clause) × List Bind) : Prop :=
  ∃ clauses own, built = (clauses, binds ++ own) ∧
    ((∀ group ∈ groups, ∀ condition ∈ group.conditions, condition.value.storable = true) →
      ∀ bind ∈ own, bind.sendable = true) ∧
    ∀ row parameters, Readable row → Past now row.user → Supplies parameters offset binds own →
      List.Forall₂ (fun clause group => Decides (groupTruth engines parameters now row clause)
        (∀ condition ∈ group.conditions,
          evaluateSingle engines now condition (readRow row).facts = true)) clauses groups

theorem buildGroups_built (agrees : RegexAgrees engines) (groups : List ConditionGroup)
    (shaped : ∀ group ∈ groups, ShapedGroup engines group)
    (present : ∀ group ∈ groups, ∀ condition ∈ group.conditions, HoldsText condition)
    (binds : List Bind) :
    BuiltGroups engines now groups offset binds (buildGroups offset binds groups) := by
  induction groups generalizing binds with
  | nil => exact ⟨[], [], by simp [buildGroups], by simp, fun _ _ _ _ _ => .nil⟩
  | cons group rest ih =>
      rw [List.forall_mem_cons] at shaped present
      have head : BuiltGroup engines now group.conditions offset binds
          (buildGroup offset binds group.conditions) :=
        buildGroup_built agrees group.conditions shaped.1.2 present.1 binds
      obtain ⟨clause, first, built, sendable, decides⟩ := head
      obtain ⟨clauses, second, builtRest, sendableRest, decidesRest⟩ :=
        ih shaped.2 present.2 (binds ++ first)
      refine ⟨clause :: clauses, first ++ second, ?_, ?_, ?_⟩
      · rw [buildGroups, built]
        dsimp only
        rw [builtRest, List.append_assoc]
      · intro storable
        rw [List.forall_mem_cons] at storable
        rw [List.forall_mem_append]
        exact ⟨sendable storable.1, sendableRest storable.2⟩
      · intro row parameters readable past supplies
        obtain ⟨supplied, suppliedRest⟩ := supplies_append supplies
        exact .cons (groupTruth_decides shaped.1.1 (decides row parameters readable past supplied))
          (decidesRest row parameters readable past suppliedRest)

/-- The evaluation of a tree without the grant is the disjunction of its groups. -/
theorem evaluate_groups {tree : RuleTree} {facts : Facts} (plain : tree.grantOnAnyPlayer = false)
    (shaped : ∀ group ∈ tree.groups, ShapedGroup engines group) :
    evaluate engines now tree facts = true ↔
      ∃ group ∈ tree.groups, ∀ condition ∈ group.conditions,
        evaluateSingle engines now condition facts = true := by
  unfold evaluate
  rw [plain, if_neg Bool.false_ne_true]
  by_cases empty : tree.groups = []
  · simp [empty]
  · rw [if_neg (by simpa using empty), List.any_eq_true]
    refine exists_congr fun group => and_congr_right fun member => ?_
    have present : group.conditions ≠ [] := (shaped group member).1
    simp [present]

/-- The clause of an accepted tree decides the tree in every readable row. -/
theorem buildRuleWhere_decides (agrees : RegexAgrees engines) (now : Timestamp) {tree : RuleTree}
    (plain : tree.grantOnAnyPlayer = false) (configured : tree.groups ≠ [])
    (shaped : ∀ group ∈ tree.groups, ShapedGroup engines group)
    (present : ∀ group ∈ tree.groups, ∀ condition ∈ group.conditions, HoldsText condition) :
    ∃ clause binds, buildRuleWhere tree 2 = (clause, binds) ∧
      ((∀ group ∈ tree.groups, ∀ condition ∈ group.conditions, condition.value.storable = true) →
        ∀ bind ∈ binds, bind.sendable = true) ∧
      ∀ row first second, Readable row → Past now row.user →
        Decides (clause.truth engines ([first, second] ++ binds) now row)
          (evaluate engines now tree (readRow row).facts = true) := by
  have groups : BuiltGroups engines now tree.groups 2 [] (buildGroups 2 [] tree.groups) :=
    buildGroups_built agrees tree.groups shaped present []
  obtain ⟨clauses, own, built, sendable, decides⟩ := groups
  refine ⟨.anyOf clauses, own, ?_, sendable, ?_⟩
  · rw [buildRuleWhere, plain, if_neg Bool.false_ne_true, if_neg (by simpa using configured), built]
    rfl
  · intro row first second readable past
    have supplies : Supplies ([first, second] ++ own) 2 [] own := by
      intro position bind found
      have shifted : 2 + ([] : List Bind).length + position = position + 2 := by
        rw [List.length_nil]
        omega
      rw [shifted]
      exact found
    exact decides_congr (any_decides (decides row _ readable past supplies))
      (evaluate_groups plain shaped).symm

end OsuPlayerRole.RuleSql
