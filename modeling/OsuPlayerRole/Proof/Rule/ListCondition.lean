/-
This file shows which list conditions keep every element that the evaluators look at.
-/
import OsuPlayerRole.Proof.Rule.ConditionClause
import OsuPlayerRole.Proof.Rule.WellFormedTree

namespace OsuPlayerRole.RuleValidator

open Json Checked ConditionEval RuleSql

/-- These elements are dropped, or they are texts that are not blank. -/
def ListedText (item : Value) : Prop :=
  item = .null ∨ ∃ text, item = .string text ∧ (text = "" ∨ RustText.trim text ≠ "")

/-- A given array has texts only, up to the elements that leave it. -/
def CleanList : Value → Prop
  | .array items => ∀ item ∈ items, ListedText item
  | .string _ | .null => True
  | _ => False

/-- A text that is not blank. -/
def SolidText (item : Value) : Prop := ∃ text, item = .string text ∧ RustText.trim text ≠ ""

section Elements

/-- The list of a stored array holds its items other than null and the empty string. -/
theorem mem_listOf_array {items : List Value} {item : Value} :
    item ∈ listOf (.array items) ↔ item ∈ items ∧ item ≠ .null ∧ item ≠ .string "" := by
  rw [listOf, List.mem_filter]
  refine and_congr_right fun _ => ?_
  cases item with
  | string text => simp
  | _ => simp

/-- The stored elements are solid texts exactly for a clean list. -/
theorem listOf_solid {raw : Value} :
    (∀ item ∈ listOf raw, SolidText item) ↔ CleanList raw := by
  cases raw with
  | array items =>
      refine forall_congr' fun item => ?_
      rw [mem_listOf_array]
      constructor
      · intro solid member
        by_cases null : item = .null
        · exact Or.inl null
        · by_cases empty : item = .string ""
          · exact Or.inr ⟨"", empty, Or.inl rfl⟩
          · obtain ⟨text, same, present⟩ := solid ⟨member, null, empty⟩
            exact Or.inr ⟨text, same, Or.inr present⟩
      · rintro clean ⟨member, null, empty⟩
        rcases clean member with same | ⟨text, same, rfl | present⟩
        · exact absurd same null
        · exact absurd same empty
        · exact ⟨text, same, present⟩
  | string text =>
      refine iff_of_true (fun item member => ?_) trivial
      obtain ⟨part, inside, rfl⟩ := List.mem_map.mp member
      obtain ⟨split, trimmed⟩ := List.mem_filter.mp inside
      obtain ⟨piece, _, rfl⟩ := List.mem_map.mp split
      exact ⟨_, rfl, RustText.trim_trim_ne_empty (of_decide_eq_true trimmed)⟩
  | null => exact iff_of_true (fun item member => absurd member List.not_mem_nil) trivial
  | bool flag =>
      refine iff_of_false (fun solid => ?_) id
      obtain ⟨text, same, _⟩ := solid _ (List.mem_singleton_self _)
      cases same
  | number number =>
      refine iff_of_false (fun solid => ?_) id
      obtain ⟨text, same, _⟩ := solid _ (List.mem_singleton_self _)
      cases same
  | object fields =>
      refine iff_of_false (fun solid => ?_) id
      obtain ⟨text, same, _⟩ := solid _ (List.mem_singleton_self _)
      cases same

/-- Solid texts are all that the evaluators see of a list. -/
theorem filterMap_solid {items : List Value} (solid : ∀ item ∈ items, SolidText item) :
    (items.filterMap Value.asStr).map .string = items := by
  induction items with
  | nil => rfl
  | cons first rest ih =>
      rw [List.forall_mem_cons] at solid
      obtain ⟨text, rfl, _⟩ := solid.1
      change Value.string text :: (rest.filterMap Value.asStr).map .string = _
      rw [ih solid.2]

end Elements

/-- This player shows the text in every field of texts. -/
def showing (facts : Facts) (text : String) : Facts :=
  { facts with
    countryCode := some text
    username := text
    groups := [text]
    playstyles := [text] }

/-- The evaluators look at the whole stored list. It has texts, and each text counts. -/
structure Effective (engines : Engines) (condition : Condition) : Prop where
  whole : condition.value = .array ((strArray condition).map .string)
  present : strArray condition ≠ []
  solid : ∀ text ∈ strArray condition, RustText.trim text ≠ ""
  looked : ∀ text, listContains condition.value text = true ↔ text ∈ strArray condition
  judged : ∀ now facts text, evaluateSingle engines now condition (showing facts text) = true ↔
    (text ∈ strArray condition ↔ condition.operator = .isIn)
  clause : ∀ offset binds, (buildCondition offset binds condition).1 ≠ .never ∧
    (buildCondition offset binds condition).1 ≠ .always

/-- The operator reads its value as a list. -/
def Listed (operator : ConditionOperator) : Prop := operator = .isIn ∨ operator = .notIn

/-- An operator over lists is valid for texts only. -/
theorem string_of_listed {operator : ConditionOperator} {kind : TargetKind} (listed : Listed operator)
    (valid : operator.validFor kind = true) : kind = .string := by
  rcases listed with rfl | rfl
  · cases kind <;> first | rfl | cases valid
  · cases kind <;> first | rfl | cases valid

section Effective

variable {engines : Engines} {condition : Condition}

/-- The evaluator's list and the clause builder's list hold the same texts. -/
theorem listContains_strArray (text : String) :
    listContains condition.value text = true ↔ text ∈ strArray condition := by
  unfold strArray
  cases condition.value with
  | array items =>
      rw [listContains_array]
      exact List.contains_iff_mem
  | _ => exact iff_of_false Bool.false_ne_true List.not_mem_nil

/-- The targets of the text kind. -/
theorem textTarget_of_kind {target : ConditionTarget} (kind : target.kind = .string) :
    target = .countryCode ∨ target = .username ∨ target = .groupName ∨ target = .playstyle := by
  cases target <;> first | decide | cases kind

/-- A player who shows one text is judged by this text. -/
theorem evaluateSingle_showing (listed : Listed condition.operator)
    (kind : condition.target.kind = .string) (now : Timestamp) (facts : Facts) (text : String) :
    evaluateSingle engines now condition (showing facts text) =
      if condition.operator = .isIn then listContains condition.value text
      else !listContains condition.value text := by
  obtain ⟨target, operator, value, valueEnd⟩ := condition
  change target.kind = .string at kind
  rcases listed with rfl | rfl
  · rcases textTarget_of_kind kind with rfl | rfl | rfl | rfl
    · rfl
    · rfl
    · exact Bool.or_false _
    · exact Bool.or_false _
  · rcases textTarget_of_kind kind with rfl | rfl | rfl | rfl
    · rfl
    · rfl
    · exact Bool.and_true _
    · exact Bool.and_true _

/-- The evaluator judges by membership in the list. -/
theorem judged_listed (listed : Listed condition.operator) (kind : condition.target.kind = .string)
    (now : Timestamp) (facts : Facts) (text : String) :
    evaluateSingle engines now condition (showing facts text) = true ↔
      (text ∈ strArray condition ↔ condition.operator = .isIn) := by
  rw [evaluateSingle_showing listed kind, ← listContains_strArray]
  rcases listed with same | same
  · simp [same]
  · simp [same]

/-- A list with a text in it makes neither a constant false nor a constant true. -/
theorem clause_listed (listed : Listed condition.operator) (present : strArray condition ≠ [])
    (offset : Nat) (binds : List Bind) :
    (buildCondition offset binds condition).1 ≠ .never ∧
      (buildCondition offset binds condition).1 ≠ .always := by
  obtain ⟨target, operator, value, valueEnd⟩ := condition
  unfold buildCondition
  dsimp only
  rcases listed with rfl | rfl
  · split
    · simp [buildArrayCondition, present, push]
    · simp [buildScalarCondition, present, push]
  · split
    · simp [buildArrayCondition, present, push]
    · simp [buildScalarCondition, present, push]

/-- A stored list of solid texts decides something. -/
theorem effective_of_solid (listed : Listed condition.operator)
    (kind : condition.target.kind = .string) {items : List Value} (present : items ≠ [])
    (stored : condition.value = .array items) (solid : ∀ item ∈ items, SolidText item) :
    Effective engines condition := by
  have texts : (strArray condition).map .string = items := by
    rw [strArray, stored]
    exact filterMap_solid solid
  have nonempty : strArray condition ≠ [] := by
    intro empty
    rw [empty] at texts
    exact present texts.symm
  refine ⟨by rw [texts, stored], nonempty, ?_, listContains_strArray, judged_listed listed kind,
    clause_listed listed nonempty⟩
  intro text member
  obtain ⟨other, same, full⟩ := solid (.string text) (texts ▸ List.mem_map_of_mem member)
  cases same
  exact full

/-- An accepted list condition is effective exactly when its list was given clean. -/
theorem Validated.effective_iff {raw : ConditionInput} (validated : Validated engines raw condition)
    (listed : Listed condition.operator) : Effective engines condition ↔ CleanList raw.value := by
  have kind : condition.target.kind = .string := string_of_listed listed validated.valid
  have normalized := validated.value ""
  rw [kind] at normalized
  have member : condition.operator ∈ [.isIn, .notIn] := by
    rcases listed with same | same <;> rw [same] <;> decide
  obtain ⟨present, stored⟩ := normalizeList_eq_ok.mp (normalizeValue_list member normalized)
  rw [← listOf_solid]
  constructor
  · intro effective item inside
    have items : listOf raw.value = (strArray condition).map .string := by
      have same := stored.symm.trans effective.whole
      exact Value.array.inj same
    rw [items] at inside
    obtain ⟨text, found, rfl⟩ := List.mem_map.mp inside
    exact ⟨text, rfl, effective.solid text found⟩
  · exact effective_of_solid listed kind present stored

end Effective

/-- Each list of the body is given clean. -/
def CleanLists (body : RuleTreeBody) : Prop :=
  ∀ group ∈ body.groups, ∀ raw ∈ group.conditions,
    (∃ operator, ConditionOperator.fromKey (RustText.trim raw.operator) = some operator ∧
      Listed operator) → CleanList raw.value

/-- The list conditions of an accepted tree are effective exactly when the lists of its body are
given clean. A tree with the grant has no conditions. -/
theorem list_conditions_effective (engines : Engines) (body : RuleTreeBody) (tree : RuleTree)
    (parsed : parseRuleTree engines body = .ok tree) :
    (∀ group ∈ tree.groups, ∀ condition ∈ group.conditions,
      Listed condition.operator → Effective engines condition) ↔
      body.grantOnAnyPlayer = true ∨ CleanLists body := by
  cases parseRuleTree_eq_ok.mp parsed with
  | granted grant read =>
      refine iff_of_true ?_ (Or.inl grant)
      intro group member
      exact absurd member List.not_mem_nil
  | @grouped mode groups plain read present limited validated =>
      have ungranted : body.grantOnAnyPlayer ≠ true := by
        rw [plain]
        exact Bool.false_ne_true
      rw [or_iff_right ungranted]
      constructor
      · rintro effective rawGroup memberGroup raw member ⟨operator, named, listed⟩
        obtain ⟨group, inside, accepted⟩ := exists_right validated memberGroup
        obtain ⟨condition, found, follows⟩ := exists_right accepted.conditions member
        obtain rfl : condition.operator = operator :=
          Option.some.inj (follows.operator.symm.trans named)
        exact (follows.effective_iff listed).mp (effective group inside condition found listed)
      · intro clean group inside condition found listed
        obtain ⟨rawGroup, memberGroup, accepted⟩ := exists_left validated inside
        obtain ⟨raw, member, follows⟩ := exists_left accepted.conditions found
        exact (follows.effective_iff listed).mpr
          (clean rawGroup memberGroup raw member ⟨_, follows.operator, listed⟩)

theorem tiered_lists_effective :
    ∃ tree, parseRuleTree Sample.letterEngines Sample.tieredBody = .ok tree ∧
      ∀ group ∈ tree.groups, ∀ condition ∈ group.conditions,
        Listed condition.operator → Effective Sample.letterEngines condition := by
  obtain ⟨tree, parsed⟩ : ∃ tree, parseRuleTree Sample.letterEngines Sample.tieredBody = .ok tree :=
    ⟨_, rfl⟩
  refine ⟨tree, parsed,
    (list_conditions_effective Sample.letterEngines Sample.tieredBody tree parsed).mpr (Or.inr ?_)⟩
  simp [CleanLists, Sample.tieredBody, CleanList]

/-- The denied list has a number in the place of a text. -/
def numberedBody : RuleTreeBody where
  grantOnAnyPlayer := false
  defaultMode := none
  groups := [⟨[⟨"country_code", "not_in", .array [.number (.posInt ⟨5, by decide⟩)], none⟩]⟩]

def numberedTree : RuleTree :=
  ⟨false, .osu, [⟨[⟨.countryCode, .notIn, .array [.number (.posInt ⟨5, by decide⟩)], none⟩]⟩]⟩

/-- Nothing is denied. The clause is TRUE, and every player with a country gets the role. -/
theorem numbered_list_denies_nothing :
    parseRuleTree Sample.letterEngines numberedBody = .ok numberedTree ∧
      buildRuleWhere numberedTree 2 = (.anyOf [[.always]], []) ∧
      (∀ now facts text,
        evaluate Sample.letterEngines now numberedTree (showing facts text) = true) ∧
      ¬ ∀ body tree, parseRuleTree Sample.letterEngines body = .ok tree →
        ∀ group ∈ tree.groups, ∀ condition ∈ group.conditions,
          Listed condition.operator → Effective Sample.letterEngines condition := by
  have parsed : parseRuleTree Sample.letterEngines numberedBody = .ok numberedTree := rfl
  refine ⟨parsed, rfl, fun now facts text => rfl, fun effective => ?_⟩
  have only := effective numberedBody numberedTree parsed _ (List.mem_singleton_self _) _
    (List.mem_singleton_self _) (Or.inr rfl)
  exact only.present rfl

end OsuPlayerRole.RuleValidator
