/-
This file shows that accepted trees are well formed and that other bodies are rejected.
-/
import OsuPlayerRole.Proof.Rule.Validated
import OsuPlayerRole.Proof.Sample

namespace OsuPlayerRole.RuleValidator

open Json Checked

/-- The formatter never shows a float as a blank text. -/
def FloatsShown (engines : Engines) : Prop :=
  ∀ value, RustText.trim (engines.showFloat value) ≠ ""

/-- This is the shape of a stored value for each kind of target. -/
def FormedValue : TargetKind → ConditionOperator → Value → Prop
  | .bool, _, value => ∃ flag, value = .bool flag
  | .int, _, value => ∃ integer, InI64 integer ∧ value = .ofI64 integer
  | .string, .isIn, value | .string, .notIn, value => ∃ items, items ≠ [] ∧ value = .array items
  | .string, _, value => ∃ text, RustText.trim text ≠ "" ∧ value = .string text

section Values

variable {engines : Engines} {location : String} {kind : TargetKind}
  {operator : ConditionOperator} {raw value : Value}

/-- The text of a number is never blank. -/
theorem number_text_present (shown : FloatsShown engines) (number : Number) :
    RustText.trim (number.text engines.showFloat) ≠ "" := by
  cases number with
  | posInt value => exact RustText.trim_repr_ne_empty value.val
  | negInt below => exact RustText.trim_toString_ne_empty _
  | float value => exact shown value

/-- A text that the validator stores is not blank. -/
theorem normalizeString_present (shown : FloatsShown engines)
    (normalized : normalizeString engines location raw = .ok value) :
    ∃ text, RustText.trim text ≠ "" ∧ value = .string text := by
  cases raw with
  | string text =>
      unfold normalizeString at normalized
      dsimp only at normalized
      split_ifs at normalized with blank
      cases normalized
      exact ⟨text, blank, rfl⟩
  | number number =>
      cases normalized
      exact ⟨_, number_text_present shown number, rfl⟩
  | bool flag =>
      cases normalized
      cases flag
      · exact ⟨"false", by decide, rfl⟩
      · exact ⟨"true", by decide, rfl⟩
  | null => cases normalized
  | array items => cases normalized
  | object fields => cases normalized

/-- The list operators store a list that is not empty. -/
theorem formed_list (listed : operator ∈ [.isIn, .notIn]) :
    FormedValue .string operator value ↔ ∃ items, items ≠ [] ∧ value = .array items := by
  cases operator <;> first | exact Iff.rfl | simp at listed

/-- The other operators store a text that is not blank. -/
theorem formed_text (single : operator ∉ [.isIn, .notIn]) :
    FormedValue .string operator value ↔
      ∃ text, RustText.trim text ≠ "" ∧ value = .string text := by
  cases operator <;> first | exact Iff.rfl | simp at single

/-- Each kind of target stores a value of its own shape. -/
theorem normalizeValue_formed (shown : FloatsShown engines)
    (normalized : normalizeValue engines location kind operator raw = .ok value) :
    FormedValue kind operator value := by
  cases kind with
  | bool => exact normalizeBool_ok normalized
  | int => exact normalizeInt_ok normalized
  | string =>
      by_cases listed : operator ∈ [.isIn, .notIn]
      · have list := normalizeList_eq_ok.mp (normalizeValue_list listed normalized)
        exact (formed_list listed).mpr ⟨_, list⟩
      · exact (formed_text listed).mpr
          (normalizeString_present shown (normalizeValue_text listed normalized))

end Values

/-- A stored condition has the operator, the values, and the pattern that its target admits. -/
structure WellFormed (engines : Engines) (condition : Condition) : Prop where
  valid : condition.operator.validFor condition.target.kind = true
  value : FormedValue condition.target.kind condition.operator condition.value
  ended : condition.operator = .between ↔ condition.valueEnd ≠ none
  bound : ∀ last ∈ condition.valueEnd, ∃ integer, InI64 integer ∧ last = .ofI64 integer
  pattern : condition.operator = .regex →
    ∃ text, condition.value = .string text ∧ (engines.regexBuild text).isSome

/-- Only the numbers have ranges. -/
theorem int_of_between {kind : TargetKind}
    (valid : ConditionOperator.between.validFor kind = true) : kind = .int := by
  cases kind with
  | bool => cases valid
  | int => rfl
  | string => cases valid

/-- Only the texts have patterns. -/
theorem string_of_regex {kind : TargetKind}
    (valid : ConditionOperator.regex.validFor kind = true) : kind = .string := by
  cases kind with
  | bool => cases valid
  | int => cases valid
  | string => rfl

/-- A validated condition has the shape that both evaluators expect. -/
theorem Validated.wellFormed {engines : Engines} (shown : FloatsShown engines)
    {raw : ConditionInput} {condition : Condition} (validated : Validated engines raw condition) :
    WellFormed engines condition := by
  have formed : FormedValue condition.target.kind condition.operator condition.value :=
    normalizeValue_formed shown (validated.value "")
  refine ⟨validated.valid, formed, ?_, ?_, ?_⟩
  · rcases normalizeEnd_ok (validated.valueEnd "") with ⟨single, missing⟩ | ⟨given, last, same, present, _⟩
    · exact iff_of_false single (not_not_intro missing)
    · exact iff_of_true same (by rw [present]; exact Option.some_ne_none last)
  · intro last present
    rcases normalizeEnd_ok (validated.valueEnd "") with ⟨_, missing⟩ | ⟨given, read, same, found, normalized⟩
    · rw [missing] at present
      cases present
    · obtain rfl : read = last := Option.some.inj (found.symm.trans present)
      have kind : condition.target.kind = .int := int_of_between (same ▸ validated.valid)
      rw [kind] at normalized
      exact normalizeInt_ok normalized
  · intro same
    have kind : condition.target.kind = .string := string_of_regex (same ▸ validated.valid)
    rw [kind, same] at formed
    obtain ⟨text, _, stored⟩ := formed
    have compiled := validated.pattern same
    rw [stored] at compiled
    exact ⟨text, stored, compiled⟩

/-- The stored conditions are the validated inputs in their order, and their number is limited. -/
def FollowsGroup (engines : Engines) (raw : ConditionGroupInput) (group : ConditionGroup) : Prop :=
  1 ≤ group.conditions.length ∧ group.conditions.length ≤ maxConditionsPerGroup ∧
    List.Forall₂ (Validated engines) raw.conditions group.conditions

structure WellFormedTree (engines : Engines) (body : RuleTreeBody) (tree : RuleTree) : Prop where
  grant : tree.grantOnAnyPlayer = body.grantOnAnyPlayer
  mode : parseMode body.defaultMode = .ok tree.defaultMode
  granted : tree.grantOnAnyPlayer = true → tree.groups = []
  grouped : tree.grantOnAnyPlayer = false →
    1 ≤ tree.groups.length ∧ tree.groups.length ≤ maxGroups ∧
      List.Forall₂ (FollowsGroup engines) body.groups tree.groups
  conditions : ∀ group ∈ tree.groups, ∀ condition ∈ group.conditions, WellFormed engines condition

/-- A validated group has as many conditions as its input. -/
theorem ValidatedGroup.follows {engines : Engines} {raw : ConditionGroupInput}
    {group : ConditionGroup} (validated : ValidatedGroup engines raw group) :
    FollowsGroup engines raw group := by
  have length : raw.conditions.length = group.conditions.length := validated.conditions.length_eq
  refine ⟨?_, length ▸ validated.limited, validated.conditions⟩
  rw [← length]
  exact List.length_pos_iff.mpr validated.present

/-- A validated tree keeps to the limits and stores well formed conditions. -/
theorem ValidatedTree.wellFormed {engines : Engines} (shown : FloatsShown engines)
    {body : RuleTreeBody} {tree : RuleTree} (validated : ValidatedTree engines body tree) :
    WellFormedTree engines body tree := by
  cases validated with
  | granted grant read =>
      refine ⟨grant.symm, read, fun _ => rfl, (fun plain => by cases plain), ?_⟩
      intro group member
      exact absurd member List.not_mem_nil
  | @grouped mode groups plain read present limited validated =>
      have length : body.groups.length = groups.length := validated.length_eq
      refine ⟨plain.symm, read, (fun grant => by cases grant), fun _ => ⟨?_, ?_, ?_⟩, ?_⟩
      · change 1 ≤ groups.length
        rw [← length]
        exact List.length_pos_iff.mpr present
      · change groups.length ≤ maxGroups
        rw [← length]
        exact limited
      · exact validated.imp fun _ _ => ValidatedGroup.follows
      · intro group member condition inside
        obtain ⟨rawGroup, _, followed⟩ := exists_left validated member
        obtain ⟨raw, _, accepted⟩ := exists_left followed.conditions inside
        exact accepted.wellFormed shown

section Rejection

/-- An unknown name, or an operator that the target does not admit. -/
inductive ViolatesCondition (raw : ConditionInput) : Prop where
  | target (unknown : ConditionTarget.fromKey (RustText.trim raw.target) = none)
  | operator (unknown : ConditionOperator.fromKey (RustText.trim raw.operator) = none)
  | pairing {target : ConditionTarget} {operator : ConditionOperator}
      (named : ConditionTarget.fromKey (RustText.trim raw.target) = some target)
      (read : ConditionOperator.fromKey (RustText.trim raw.operator) = some operator)
      (wrong : operator.validFor target.kind = false)

inductive ViolatesGroup (raw : ConditionGroupInput) : Prop where
  | empty (missing : raw.conditions = [])
  | crowded (many : maxConditionsPerGroup < raw.conditions.length)
  | condition (condition : ConditionInput) (member : condition ∈ raw.conditions)
      (violates : ViolatesCondition condition)

inductive ViolatesGroups (body : RuleTreeBody) : Prop where
  | empty (missing : body.groups = [])
  | crowded (many : maxGroups < body.groups.length)
  | group (group : ConditionGroupInput) (member : group ∈ body.groups)
      (violates : ViolatesGroup group)

/-- A blank mode is the default mode. -/
def UnknownMode (body : RuleTreeBody) : Prop :=
  ∃ text, body.defaultMode = some text ∧ RustText.trim text ≠ "" ∧
    Mode.fromKey (RustText.trim text) = none

variable {engines : Engines} {body : RuleTreeBody} {tree : RuleTree}

def BadRequest (error : AppError) : Prop := ∃ message, error = .badRequest message

/-- A rejection is a bad request. -/
theorem badRequest_failsOnly {A : Type} (message : String) :
    FailsOnly BadRequest (.error (.badRequest message) : Except AppError A) :=
  failsOnly_error ⟨message, rfl⟩

/-- A truth value is only ever rejected as a bad request. -/
theorem normalizeBool_failsOnly (location : String) (raw : Value) :
    FailsOnly BadRequest (normalizeBool engines location raw) := by
  cases raw with
  | bool flag => exact failsOnly_ok _
  | string text =>
      unfold normalizeBool
      dsimp only
      split_ifs
      · exact failsOnly_ok _
      · exact failsOnly_ok _
      · exact badRequest_failsOnly _
  | _ => exact badRequest_failsOnly _

/-- A number is only ever rejected as a bad request. -/
theorem normalizeInt_failsOnly (location : String) (raw : Value) :
    FailsOnly BadRequest (normalizeInt engines location raw) := by
  unfold normalizeInt
  split
  · exact failsOnly_ok _
  · exact badRequest_failsOnly _

/-- A list is only ever rejected as a bad request. -/
theorem normalizeList_failsOnly (location : String) (raw : Value) :
    FailsOnly BadRequest (normalizeList location raw) := by
  unfold normalizeList
  split_ifs
  · exact badRequest_failsOnly _
  · exact failsOnly_ok _

/-- A text is only ever rejected as a bad request. -/
theorem normalizeString_failsOnly (location : String) (raw : Value) :
    FailsOnly BadRequest (normalizeString engines location raw) := by
  cases raw with
  | string text =>
      unfold normalizeString
      dsimp only
      split_ifs
      · exact badRequest_failsOnly _
      · exact failsOnly_ok _
  | number number => exact failsOnly_ok _
  | bool flag => exact failsOnly_ok _
  | _ => exact badRequest_failsOnly _

/-- A value of any kind is only ever rejected as a bad request. -/
theorem normalizeValue_failsOnly (location : String) (kind : TargetKind)
    (operator : ConditionOperator) (raw : Value) :
    FailsOnly BadRequest (normalizeValue engines location kind operator raw) := by
  cases kind with
  | bool => exact normalizeBool_failsOnly location raw
  | int => exact normalizeInt_failsOnly location raw
  | string =>
      cases operator with
      | isIn => exact normalizeList_failsOnly location raw
      | notIn => exact normalizeList_failsOnly location raw
      | _ => exact normalizeString_failsOnly location raw

/-- The end of a range is only ever rejected as a bad request. -/
theorem normalizeEnd_failsOnly (location : String) (kind : TargetKind)
    (operator : ConditionOperator) (raw : Option Value) :
    FailsOnly BadRequest (normalizeEnd engines location kind operator raw) := by
  unfold normalizeEnd
  split
  · exact failsOnly_map (normalizeValue_failsOnly location kind .between _)
  · exact badRequest_failsOnly _
  · exact failsOnly_ok _

/-- Each check of a condition rejects it as a bad request. -/
theorem validateCondition_failsOnly (groupNum condNum : Nat) (raw : ConditionInput) :
    FailsOnly BadRequest (validateCondition engines groupNum condNum raw) := by
  unfold validateCondition
  dsimp only
  split
  · split
    · split
      · exact badRequest_failsOnly _
      · refine failsOnly_bind (normalizeValue_failsOnly _ _ _ _) fun value => ?_
        refine failsOnly_bind (normalizeEnd_failsOnly _ _ _ _) fun valueEnd => ?_
        refine failsOnly_bind ?_ fun _ => failsOnly_ok _
        unfold checkRegex
        split
        · exact badRequest_failsOnly _
        · exact failsOnly_ok _
    · exact badRequest_failsOnly _
  · exact badRequest_failsOnly _

/-- The first bad condition rejects its group as a bad request. -/
theorem validateConditions_failsOnly (groupNum condNum : Nat) (raws : List ConditionInput) :
    FailsOnly BadRequest (validateConditions engines groupNum condNum raws) := by
  induction raws generalizing condNum with
  | nil => exact failsOnly_ok _
  | cons raw rest ih =>
      refine failsOnly_bind (validateCondition_failsOnly groupNum condNum raw) fun condition => ?_
      exact failsOnly_bind (ih _) fun others => failsOnly_ok _

/-- The first bad group rejects the body as a bad request. -/
theorem validateGroups_failsOnly (groupNum : Nat) (raws : List ConditionGroupInput) :
    FailsOnly BadRequest (validateGroups engines groupNum raws) := by
  induction raws generalizing groupNum with
  | nil => exact failsOnly_ok _
  | cons raw rest ih =>
      unfold validateGroups
      dsimp only
      split
      · exact badRequest_failsOnly _
      · split
        · exact badRequest_failsOnly _
        · refine failsOnly_bind (validateConditions_failsOnly groupNum 1 _) fun conditions => ?_
          exact failsOnly_bind (ih _) fun others => failsOnly_ok _

/-- An unknown mode is a bad request. -/
theorem parseMode_failsOnly (mode : Option String) : FailsOnly BadRequest (parseMode mode) := by
  unfold parseMode
  split
  · exact failsOnly_ok _
  · dsimp only
    split
    · exact failsOnly_ok _
    · split
      · exact failsOnly_ok _
      · exact badRequest_failsOnly _

/-- The parser fails with a bad request and with nothing else. -/
theorem parseRuleTree_failsOnly (body : RuleTreeBody) :
    FailsOnly BadRequest (parseRuleTree engines body) := by
  unfold parseRuleTree
  refine failsOnly_bind (parseMode_failsOnly _) fun mode => ?_
  dsimp only
  split
  · exact failsOnly_ok _
  · split
    · exact badRequest_failsOnly _
    · split
      · exact badRequest_failsOnly _
      · exact failsOnly_bind (validateGroups_failsOnly 1 _) fun groups => failsOnly_ok _

/-- A condition that breaks a rule passes no validation. -/
theorem ViolatesCondition.not_validated {raw : ConditionInput} {condition : Condition}
    (violates : ViolatesCondition raw) : ¬ Validated engines raw condition := by
  intro validated
  cases violates with
  | target unknown =>
      rw [validated.target] at unknown
      cases unknown
  | operator unknown =>
      rw [validated.operator] at unknown
      cases unknown
  | pairing named read wrong =>
      cases validated.target.symm.trans named
      cases validated.operator.symm.trans read
      rw [validated.valid] at wrong
      cases wrong

/-- A group that breaks a rule passes no validation. -/
theorem ViolatesGroup.not_validated {raw : ConditionGroupInput} {group : ConditionGroup}
    (violates : ViolatesGroup raw) : ¬ ValidatedGroup engines raw group := by
  intro validated
  cases violates with
  | empty missing => exact validated.present missing
  | crowded many => exact absurd validated.limited (Nat.not_le.mpr many)
  | condition condition member violates =>
      obtain ⟨_, _, accepted⟩ := exists_right validated.conditions member
      exact violates.not_validated accepted

/-- A mode without a known name is never read. -/
theorem unknownMode_error (unknown : UnknownMode body) (mode : Mode) :
    parseMode body.defaultMode ≠ .ok mode := by
  obtain ⟨text, given, present, missing⟩ := unknown
  rw [given]
  unfold parseMode
  dsimp only
  rw [if_neg present, missing]
  intro read
  cases read

/-- A body that breaks a rule of its groups is rejected as a whole, unless it grants to all. -/
theorem violation_rejected
    (violates : UnknownMode body ∨ body.grantOnAnyPlayer = false ∧ ViolatesGroups body) :
    ∃ message, parseRuleTree engines body = .error (.badRequest message) := by
  have never : ∀ tree, parseRuleTree engines body ≠ .ok tree := by
    intro tree parsed
    have validated : ValidatedTree engines body tree := parseRuleTree_eq_ok.mp parsed
    rcases violates with unknown | ⟨plain, violates⟩
    · cases validated with
      | granted grant read => exact unknownMode_error unknown _ read
      | grouped plain read present limited groups => exact unknownMode_error unknown _ read
    · cases validated with
      | granted grant read =>
          rw [plain] at grant
          cases grant
      | grouped _ read present limited groups =>
          cases violates with
          | empty missing => exact present missing
          | crowded many => exact absurd limited (Nat.not_le.mpr many)
          | group group member violates =>
              obtain ⟨_, _, accepted⟩ := exists_right groups member
              exact violates.not_validated accepted
  obtain ⟨_, ⟨message, rfl⟩, failed⟩ := (parseRuleTree_failsOnly body).refused never
  exact ⟨message, failed⟩

end Rejection

/-- Accepted trees are well formed, and a body that breaks a rule is rejected as a whole. The groups
of a body with the grant are neither checked nor kept. -/
theorem parser_output_well_formed (engines : Engines) (shown : FloatsShown engines)
    (body : RuleTreeBody) :
    (∀ tree, parseRuleTree engines body = .ok tree → WellFormedTree engines body tree) ∧
      (UnknownMode body ∨ body.grantOnAnyPlayer = false ∧ ViolatesGroups body →
        ∃ message, parseRuleTree engines body = .error (.badRequest message)) :=
  ⟨fun _ parsed => (parseRuleTree_eq_ok.mp parsed).wellFormed shown, violation_rejected⟩

/-- The sample formatter shows every float. -/
theorem letterEngines_shown : FloatsShown Sample.letterEngines := by
  intro value
  change RustText.trim "0.0" ≠ ""
  decide

/-- A body of two groups is accepted, and without its groups it is rejected. -/
theorem tieredBody_well_formed :
    (∃ tree, parseRuleTree Sample.letterEngines Sample.tieredBody = .ok tree ∧
      WellFormedTree Sample.letterEngines Sample.tieredBody tree) ∧
      ∃ message, parseRuleTree Sample.letterEngines { Sample.tieredBody with groups := [] } =
        .error (.badRequest message) := by
  refine ⟨?_, ?_⟩
  · obtain ⟨tree, parsed⟩ : ∃ tree, parseRuleTree Sample.letterEngines Sample.tieredBody = .ok tree :=
      ⟨_, rfl⟩
    exact ⟨tree, parsed,
      (parser_output_well_formed Sample.letterEngines letterEngines_shown Sample.tieredBody).1 tree parsed⟩
  · exact (parser_output_well_formed Sample.letterEngines letterEngines_shown _).2
      (Or.inr ⟨rfl, .empty rfl⟩)

/-- A body with the grant is accepted, although its group names an unknown target. -/
theorem granted_groups_unchecked :
    ¬ ∀ body : RuleTreeBody, UnknownMode body ∨ ViolatesGroups body →
      ∃ message, parseRuleTree Sample.letterEngines body = .error (.badRequest message) := by
  intro rejected
  obtain ⟨message, failed⟩ := rejected ⟨true, none, [⟨[⟨"unknown", "eq", .null, none⟩]⟩]⟩
    (Or.inr (.group _ (List.mem_singleton_self _)
      (.condition _ (List.mem_singleton_self _) (.target (by decide)))))
  cases failed

end OsuPlayerRole.RuleValidator
