/-
This file compares the clause of one condition with its evaluation on the facts.
-/
import OsuPlayerRole.Proof.Rule.TargetView

namespace OsuPlayerRole.RuleSql

open Json ThreeValued ConditionEval RuleValidator Sync

/-- The two regex engines agree on every pattern that the crate compiles. -/
def RegexAgrees (engines : Engines) : Prop :=
  ∀ pattern isMatch, engines.regexBuild pattern = some isMatch →
    ∀ text, engines.pgRegex text pattern = .ok (isMatch text)

section Text

/-- The three replacements quote each special character once. -/
theorem escapeLike_toList (text : String) :
    (escapeLike text).toList = LikePattern.escape text.toList := by
  simp only [escapeLike, RustText.replace, RustText.replaceChars, String.toList_ofList,
    List.flatMap_assoc, LikePattern.escape]
  refine List.flatMap_congr fun character _ => ?_
  unfold LikePattern.quote
  by_cases backslash : character = '\\'
  · subst backslash
    rfl
  · by_cases percent : character = '%'
    · subst percent
      rfl
    · by_cases underscore : character = '_'
      · subst underscore
        rfl
      · simp [backslash, percent, underscore]

/-- The pattern is the escaped text between two wildcards. -/
theorem likePattern_toList (text : String) :
    ("%" ++ escapeLike text ++ "%").toList = '%' :: (LikePattern.escape text.toList ++ ['%']) := by
  rw [String.toList_append, String.toList_append, escapeLike_toList]
  rfl

/-- The pattern of `contains` searches for the exact text. -/
theorem likeText_contains (text needle : String) :
    Datum.likeText text ("%" ++ escapeLike needle ++ "%") =
      .ok (some (RustText.contains text needle)) := by
  rw [Datum.likeText, likePattern_toList, LikePattern.like_escape]
  rfl

/-- The pattern of `contains` covers exactly the texts with the value inside, the operator decides so as
the evaluator does, and the escaped value has no dangling escape. -/
theorem contains_pattern_exact (value text : String) :
    (LikePattern.Matches ("%" ++ escapeLike value ++ "%").toList text.toList ↔
        value.toList <:+: text.toList) ∧
      LikePattern.like text.toList ("%" ++ escapeLike value ++ "%").toList =
        some (RustText.contains text value) ∧
      (LikePattern.tokens (escapeLike value).toList).isSome = true := by
  have decided : LikePattern.like text.toList ("%" ++ escapeLike value ++ "%").toList =
      some (RustText.contains text value) := by
    rw [likePattern_toList]
    exact LikePattern.like_escape value.toList text.toList
  have parsed : LikePattern.tokens (escapeLike value).toList =
      some (value.toList.map LikePattern.Token.exactly) := by
    have whole := LikePattern.tokens_escape value.toList []
    rw [List.append_nil] at whole
    rw [escapeLike_toList, whole, LikePattern.tokens, Option.map_some, List.append_nil]
  refine ⟨?_, decided, ?_⟩
  · rw [← LikePattern.like_iff_matches, decided, Option.some.injEq]
    exact decide_eq_true_iff
  · rw [parsed]
    rfl

end Text

section Relations

/-- The element search without errors is a search by a plain predicate. -/
theorem exists_decides {condition : String → Except DbError Truth} {matched : String → Bool}
    {values : List String} (each : ∀ text ∈ values, condition text = .ok (some (matched text))) :
    Decides (Datum.exists' condition (.array (values.map some))) (values.any matched = true) := by
  have truths : (values.map some).mapM (fun element : Option String =>
      element.elim (.ok none) condition) =
      (.ok ((values.map some).map fun element => some (element.any matched)) :
        Except DbError (List Truth)) := by
    refine Checked.mapM_ok fun element member => ?_
    obtain ⟨text, inside, rfl⟩ := List.mem_map.mp member
    exact each text inside
  simp only [Datum.exists', truths]
  refine ⟨_, rfl, ?_⟩
  simp [List.any_map, Function.comp_def, holds]

/-- The database finds a value among the elements. -/
theorem includes_value (values : List String) (value : String) :
    Datum.includes (.array (values.map some)) (.text value) =
      .ok (some (values.any (· == value))) := by
  have same : (values.map some).contains (some value) = values.any (· == value) := by
    rw [Bool.eq_iff_iff]
    simp
  rw [Datum.includes, same]

/-- The database finds a common element of two arrays. -/
theorem overlaps_value (values others : List String) :
    Datum.overlaps (.array (values.map some)) (.textArray others) =
      .ok (some (values.any fun value => others.contains value)) := by
  simp only [Datum.overlaps, List.any_map, Function.comp_def, Option.some_beq_some,
    List.contains_eq_any_beq]

/-- A negation turns a decided condition around when the condition is not UNKNOWN. -/
theorem not_decides {relation : Except DbError Truth} {flag : Bool}
    (known : relation = .ok (some flag)) :
    Decides (ThreeValued.not <$> relation) (flag = false) := by
  rw [known]
  refine decides_ok ?_
  simp [ThreeValued.not]

end Relations

section Build

variable {engines : Engines} {now : Timestamp} {condition : Condition} {offset : Nat}
  {binds : List Bind}

/-- The parameters hold the own binds of a clause behind the binds before it. -/
def Supplies (parameters : List Bind) (offset : Nat) (binds own : List Bind) : Prop :=
  ∀ position bind, own[position]? = some bind →
    parameters[offset + binds.length + position]? = some bind

/-- The own binds stand between the binds before the clause and those after it. -/
theorem supplies_own (prior binds own later : List Bind) :
    Supplies (prior ++ (binds ++ own) ++ later) prior.length binds own := by
  intro position bind present
  have bound : position < own.length := (List.getElem?_eq_some_iff.mp present).1
  rw [List.append_assoc, List.getElem?_append_right (by omega), List.append_assoc,
    List.getElem?_append_right (by omega), List.getElem?_append_left (by omega), ← present]
  congr 1
  omega

/-- A value stands behind the index that it was pushed with. -/
theorem supplies_parameter {parameters own : List Bind} {bind : Bind}
    (supplies : Supplies parameters offset binds own) (position : Nat)
    (present : own[position]? = some bind) :
    parameter parameters (nextIndex offset binds + position) = .ok bind := by
  have shifted : nextIndex offset binds + position - 1 = offset + binds.length + position := by
    unfold nextIndex
    omega
  rw [parameter, shifted, supplies position bind present]

/-- The clause decides the condition in every readable row, and its binds can be sent. -/
def Built (engines : Engines) (now : Timestamp) (condition : Condition) (offset : Nat)
    (binds : List Bind) (built : Clause × List Bind) : Prop :=
  ∃ clause own, built = (clause, binds ++ own) ∧
    (condition.value.storable = true → ∀ bind ∈ own, bind.sendable = true) ∧
    ∀ row parameters, Readable row → Past now row.user → Supplies parameters offset binds own →
      Decides (clause.truth engines parameters now row)
        (evaluateSingle engines now condition (readRow row).facts = true)

/-- A clause with one bind is built when a relation gives its truth and decides each view. -/
theorem push_built {bind : Bind} {clause : Nat → Clause} (shape : View → Prop)
    (shaped : ∀ facts, shape (view now facts condition.target))
    (sendable : condition.value.storable = true → bind.sendable = true)
    (relation : Datum → Except DbError Truth)
    (truth : ∀ row parameters index datum,
      (targetExpr condition.target).value now row = .ok datum →
      parameter parameters index = .ok bind →
      (clause index).truth engines parameters now row = relation datum)
    (decides : ∀ shown, shape shown →
      Decides (relation shown.datum) (shown.decide engines condition = true)) :
    Built engines now condition offset binds (push offset binds bind clause) := by
  refine ⟨clause (nextIndex offset binds), [bind], rfl, ?_, ?_⟩
  · intro storable other member
    rw [List.mem_singleton] at member
    exact member ▸ sendable storable
  · intro row parameters readable past supplies
    have supplied : parameter parameters (nextIndex offset binds) = .ok bind :=
      supplies_parameter supplies 0 rfl
    rw [evaluateSingle_view,
      truth row parameters _ _ (targetExpr_view readable past condition.target) supplied]
    exact decides _ (shaped _)

/-- A relation reads its column and its value. -/
theorem applied_eq {row : JoinedRow} {parameters : List Bind} {index : Nat} {bind : Bind}
    {datum : Datum} {expr : Expr} (relation : Datum → Bind → Except DbError Truth)
    (value : expr.value now row = .ok datum) (supplied : parameter parameters index = .ok bind) :
    applied parameters now row relation expr index = relation datum bind := by
  rw [applied, value, supplied]
  rfl

/-- A target with a single column builds the clause of a single column. -/
theorem buildCondition_single (single : ¬ isList condition.target) :
    buildCondition offset binds condition =
      buildScalarCondition offset binds condition (targetExpr condition.target) :=
  if_neg single

/-- A target with an array builds the clause of an array. -/
theorem buildCondition_list (listed : isList condition.target) :
    buildCondition offset binds condition =
      buildArrayCondition offset binds condition (targetExpr condition.target) :=
  if_pos listed

end Build

section Shapes

variable {engines : Engines} {now : Timestamp} {target : ConditionTarget} {offset : Nat}
  {binds : List Bind}

/-- The check for NUL is the absence of NUL. -/
theorem clean_iff (text : String) : (!text.toList.contains '\x00') = true ↔ '\x00' ∉ text.toList := by
  simp

/-- A pattern has no character NUL when its operand has none. -/
theorem like_sendable {text : String} (storable : (Value.string text).storable = true) :
    (Bind.text ("%" ++ escapeLike text ++ "%")).sendable = true := by
  have clean : '\x00' ∉ text.toList := (clean_iff text).mp storable
  change (!("%" ++ escapeLike text ++ "%").toList.contains '\x00') = true
  rw [clean_iff, likePattern_toList]
  simp only [List.mem_cons, List.mem_append, List.not_mem_nil, or_false, LikePattern.escape,
    List.mem_flatMap, not_or, not_exists, not_and]
  refine ⟨by decide, fun character member null => ?_, by decide⟩
  unfold LikePattern.quote at null
  split at null
  · simp only [List.mem_cons, List.not_mem_nil, or_false] at null
    rcases null with null | null
    · exact absurd null (by decide)
    · exact clean (null ▸ member)
  · rw [List.mem_singleton] at null
    exact clean (null ▸ member)

/-- The items of a storable array are storable. -/
theorem storable_item {items : List Value} {item : Value}
    (storable : Value.storableItems items = true) (member : item ∈ items) :
    item.storable = true := by
  induction items with
  | nil => exact absurd member List.not_mem_nil
  | cons first rest ih =>
      rw [Value.storableItems, Bool.and_eq_true] at storable
      rcases List.mem_cons.mp member with rfl | inside
      · exact storable.1
      · exact ih storable.2 inside

/-- The texts of a storable array can be sent. -/
theorem list_sendable {items : List Value} (storable : (Value.array items).storable = true) :
    (Bind.textArray (items.filterMap Value.asStr)).sendable = true := by
  refine List.all_eq_true.mpr fun text member => ?_
  obtain ⟨item, inside, shown⟩ := List.mem_filterMap.mp member
  cases item with
  | string value =>
      cases shown
      exact storable_item storable inside
  | _ => cases shown

/-- NULL equals no element for certain. -/
theorem equalsAny_null {others : List String} (present : others ≠ []) :
    Datum.equalsAny .null (.textArray others) = .ok none := by
  cases others with
  | nil => exact absurd rfl present
  | cons first rest => rfl

/-- The evaluator looks among the texts of the array. -/
theorem listContains_array (items : List Value) (needle : String) :
    listContains (.array items) needle = (items.filterMap Value.asStr).contains needle := by
  rw [List.contains_eq_any_beq]
  exact congrArg (List.any _) (funext fun other => Bool.beq_comm)

/-- The clause asks for some element that the pattern covers. -/
theorem someLike_eq {row : JoinedRow} {parameters : List Bind} {index : Nat} {pattern : String}
    {datum : Datum} {expr : Expr} (value : expr.value now row = .ok datum)
    (supplied : parameter parameters index = .ok (.text pattern)) :
    (Clause.someLike expr index).truth engines parameters now row =
      Datum.exists' (fun text => Datum.likeText text pattern) datum := by
  rw [Clause.truth, value, supplied]
  rfl

/-- The clause asks for some element that the pattern matches. -/
theorem someRegex_eq {row : JoinedRow} {parameters : List Bind} {index : Nat} {pattern : String}
    {datum : Datum} {expr : Expr} (value : expr.value now row = .ok datum)
    (supplied : parameter parameters index = .ok (.text pattern)) :
    (Clause.someRegex expr index).truth engines parameters now row =
      Datum.exists' (fun text => Datum.regexText engines text pattern) datum := by
  rw [Clause.truth, value, supplied]
  rfl

/-- Only text targets are lists. -/
theorem single_of_kind {kind : TargetKind} (known : target.kind = kind) (plain : kind ≠ .string) :
    ¬ isList target :=
  fun listed => plain (known.symm.trans (kind_of_isList listed))

/-- The clause of a truth value decides as the evaluator does. -/
theorem bool_built (kind : target.kind = .bool) (value : Bool) :
    Built engines now ⟨target, .eq, .bool value, none⟩ offset binds
      (buildCondition offset binds ⟨target, .eq, .bool value, none⟩) := by
  rw [buildCondition_single (single_of_kind kind (by decide))]
  refine push_built (fun shown => ∃ flag, shown = .bool flag) (view_bool kind now) (fun _ => rfl)
    (Datum.equals · (.bool value)) (fun _ _ _ _ => applied_eq Datum.equals) ?_
  rintro shown ⟨actual, rfl⟩
  refine decides_ok ?_
  cases actual <;> cases value <;> simp [View.decide, boolMatch, Value.asBool]

section Int

variable {operator : ConditionOperator} {value : Int}

/-- The clause decides the condition for every integer that its target shows, or for none. -/
def Judges (engines : Engines) (condition : Condition) (offset : Nat) (binds : List Bind)
    (built : Clause × List Bind) : Prop :=
  ∃ clause own, built = (clause, binds ++ own) ∧ (∀ bind ∈ own, bind.sendable = true) ∧
    ∀ now row parameters shown,
      (targetExpr condition.target).value now row = .ok (View.int shown).datum →
      Supplies parameters offset binds own →
      Decides (clause.truth engines parameters now row) (intMatch condition shown = true)

/-- A clause that judges the number decides as the evaluator does. -/
theorem Judges.built {condition : Condition} {built : Clause × List Bind}
    (judges : Judges engines condition offset binds built) (kind : condition.target.kind = .int) :
    Built engines now condition offset binds built := by
  obtain ⟨clause, own, same, sendable, decides⟩ := judges
  refine ⟨clause, own, same, fun _ => sendable, ?_⟩
  intro row parameters readable past supplies
  obtain ⟨actual, shown⟩ := view_int kind now (readRow row).facts
  have value := targetExpr_view readable past condition.target
  rw [evaluateSingle_view, shown]
  rw [shown] at value
  exact decides now row parameters actual value supplies

/-- An integer clause judges its condition when its relation does on integers and fails on null. -/
theorem int_judges {clause : Nat → Clause}
    (relation : Datum → Except DbError Truth) (matched : Int → Bool)
    (truth : ∀ now row parameters index datum, (targetExpr target).value now row = .ok datum →
      parameter parameters index = .ok (.int value) →
      (clause index).truth engines parameters now row = relation datum)
    (missing : relation .null = .ok none)
    (present : ∀ actual, relation (.int actual) = .ok (some (matched actual)))
    (verdict : ∀ actual,
      intMatch ⟨target, operator, .ofI64 value, none⟩ (some actual) = matched actual) :
    Judges engines ⟨target, operator, .ofI64 value, none⟩ offset binds
      (push offset binds (.int value) clause) := by
  refine ⟨clause (nextIndex offset binds), [.int value], rfl, ?_, ?_⟩
  · intro bind member
    rw [List.mem_singleton.mp member]
    rfl
  · intro now row parameters shown known supplies
    have supplied : parameter parameters (nextIndex offset binds) = .ok (.int value) :=
      supplies_parameter supplies 0 rfl
    rw [truth now row parameters _ _ known supplied]
    cases shown with
    | none =>
        change Decides (relation .null)
          (intMatch ⟨target, operator, .ofI64 value, none⟩ none = true)
        rw [missing]
        exact decides_ok (by simp [intMatch])
    | some actual =>
        change Decides (relation (.int actual)) (intMatch _ (some actual) = true)
        rw [present, verdict]
        exact decides_ok (holds_some _)

/-- The clause of one number judges it. -/
theorem integer_judges (kind : target.kind = .int) (valid : operator.validFor .int)
    (single : operator ≠ .between) (inside : InI64 value) :
    Judges engines ⟨target, operator, .ofI64 value, none⟩ offset binds
      (buildCondition offset binds ⟨target, operator, .ofI64 value, none⟩) := by
  have operand : (Value.ofI64 value).asI64 = some value := Value.asI64_ofI64 inside.1 inside.2
  rw [buildCondition_single (single_of_kind kind (by decide))]
  cases operator with
  | eq =>
      simp only [buildScalarCondition, operand]
      refine int_judges (Datum.equals · (.int value)) (· == value)
        (fun _ _ _ _ _ => applied_eq Datum.equals) rfl (fun _ => rfl) fun actual => ?_
      simp [intMatch, operand]
  | neq =>
      simp only [buildScalarCondition, operand]
      refine int_judges (fun datum => ThreeValued.not <$> datum.equals (.int value)) (· != value)
        (fun _ _ _ _ _ known supplied =>
          congrArg (ThreeValued.not <$> ·) (applied_eq Datum.equals known supplied))
        rfl (fun _ => rfl) fun actual => ?_
      simp [intMatch, operand]
  | gt =>
      simp only [buildScalarCondition, buildComparison, operand, Option.getD_some]
      refine int_judges (Datum.compares .gt · (.int value)) (Comparison.gt.holds · value)
        (fun _ _ _ _ _ => applied_eq (Datum.compares .gt)) rfl (fun _ => rfl) fun actual => ?_
      simp [intMatch, operand, Comparison.holds]
  | gte =>
      simp only [buildScalarCondition, buildComparison, operand, Option.getD_some]
      refine int_judges (Datum.compares .gte · (.int value)) (Comparison.gte.holds · value)
        (fun _ _ _ _ _ => applied_eq (Datum.compares .gte)) rfl (fun _ => rfl) fun actual => ?_
      simp [intMatch, operand, Comparison.holds]
  | lt =>
      simp only [buildScalarCondition, buildComparison, operand, Option.getD_some]
      refine int_judges (Datum.compares .lt · (.int value)) (Comparison.lt.holds · value)
        (fun _ _ _ _ _ => applied_eq (Datum.compares .lt)) rfl (fun _ => rfl) fun actual => ?_
      simp [intMatch, operand, Comparison.holds]
  | lte =>
      simp only [buildScalarCondition, buildComparison, operand, Option.getD_some]
      refine int_judges (Datum.compares .lte · (.int value)) (Comparison.lte.holds · value)
        (fun _ _ _ _ _ => applied_eq (Datum.compares .lte)) rfl (fun _ => rfl) fun actual => ?_
      simp [intMatch, operand, Comparison.holds]
  | between => exact absurd rfl single
  | contains => cases valid
  | regex => cases valid
  | isIn => cases valid
  | notIn => cases valid

/-- The clause of a range judges the number. -/
theorem range_judges {low high : Int} (kind : target.kind = .int) (first : InI64 low)
    (last : InI64 high) :
    Judges engines ⟨target, .between, .ofI64 low, some (.ofI64 high)⟩ offset binds
      (buildCondition offset binds ⟨target, .between, .ofI64 low, some (.ofI64 high)⟩) := by
  have lowOperand : (Value.ofI64 low).asI64 = some low := Value.asI64_ofI64 first.1 first.2
  have highOperand : (Value.ofI64 high).asI64 = some high := Value.asI64_ofI64 last.1 last.2
  rw [buildCondition_single (single_of_kind kind (by decide))]
  simp only [buildScalarCondition, lowOperand, highOperand, Option.getD_some, Option.bind_some]
  refine ⟨_, [.int low, .int high], rfl, ?_, ?_⟩
  · intro bind member
    simp only [List.mem_cons, List.not_mem_nil, or_false] at member
    rcases member with rfl | rfl <;> rfl
  · intro now row parameters shown value supplies
    have above := applied_eq (Datum.compares .gte) value (supplies_parameter supplies 0 rfl)
    have below := applied_eq (Datum.compares .lte) value (supplies_parameter supplies 1 rfl)
    change Decides (do
      let above ← applied parameters now row (Datum.compares .gte) (targetExpr target)
        (nextIndex offset binds + 0)
      let below ← applied parameters now row (Datum.compares .lte) (targetExpr target)
        (nextIndex offset binds + 1)
      return and above below) _
    rw [above, below]
    cases shown with
    | none => exact decides_ok (by simp [intMatch, ThreeValued.and])
    | some actual =>
        refine decides_ok ?_
        simp [intMatch, lowOperand, highOperand, Comparison.holds]

end Int

section Text

variable {text : String}

/-- The clauses of a text operand on a text column. -/
theorem text_single_built (agrees : RegexAgrees engines) {operator : ConditionOperator}
    (kind : target.kind = .string) (single : ¬ isList target)
    (valid : operator ∈ [.eq, .neq, .contains, .regex])
    (compiles : operator = .regex → (engines.regexBuild text).isSome) :
    Built engines now ⟨target, operator, .string text, none⟩ offset binds
      (buildCondition offset binds ⟨target, operator, .string text, none⟩) := by
  rw [buildCondition_single single]
  cases operator with
  | eq =>
      refine push_built (fun shown => ∃ actual, shown = .string actual) (view_string kind single now)
        id (Datum.equals · (.text text)) (fun _ _ _ _ => applied_eq Datum.equals) ?_
      rintro shown ⟨actual, rfl⟩
      cases actual with
      | none => exact decides_ok (by simp [View.decide, stringMatch])
      | some actual =>
          exact decides_ok (by simp [View.decide, stringMatch, Value.asStr])
  | neq =>
      refine push_built (fun shown => ∃ actual, shown = .string actual) (view_string kind single now)
        id (Datum.distinctFrom · (.text text)) (fun _ _ _ _ => applied_eq Datum.distinctFrom) ?_
      rintro shown ⟨actual, rfl⟩
      cases actual with
      | none => exact decides_ok (by simp [View.decide, stringMatch])
      | some actual =>
          change Decides (.ok (some !(actual == text))) _
          exact decides_ok (by simp [View.decide, stringMatch, Value.asStr, bne])
  | contains =>
      refine push_built (fun shown => ∃ actual, shown = .string actual) (view_string kind single now)
        like_sendable (Datum.likes · (.text ("%" ++ escapeLike text ++ "%")))
        (fun _ _ _ _ => applied_eq Datum.likes) ?_
      rintro shown ⟨actual, rfl⟩
      cases actual with
      | none => exact decides_ok (by simp [View.decide, stringMatch])
      | some actual =>
          change Decides (Datum.likeText actual ("%" ++ escapeLike text ++ "%")) _
          rw [likeText_contains]
          exact decides_ok (by simp [View.decide, stringMatch, Value.asStr])
  | regex =>
      obtain ⟨isMatch, compiled⟩ := Option.isSome_iff_exists.mp (compiles rfl)
      refine push_built (fun shown => ∃ actual, shown = .string actual) (view_string kind single now)
        id (Datum.matchesRegex engines · (.text text))
        (fun _ _ _ _ => applied_eq (Datum.matchesRegex engines)) ?_
      rintro shown ⟨actual, rfl⟩
      cases actual with
      | none => exact decides_ok (by simp [View.decide, stringMatch])
      | some actual =>
          change Decides (Datum.regexText engines actual text) _
          rw [Datum.regexText, agrees text isMatch compiled]
          exact decides_ok (by simp [View.decide, stringMatch, Value.asStr, compiled])
  | gt => simp at valid
  | gte => simp at valid
  | lt => simp at valid
  | lte => simp at valid
  | between => simp at valid
  | isIn => simp at valid
  | notIn => simp at valid

/-- The clauses of a text operand on an array column. -/
theorem text_list_built (agrees : RegexAgrees engines) {operator : ConditionOperator}
    (listed : isList target) (valid : operator ∈ [.eq, .neq, .contains, .regex])
    (compiles : operator = .regex → (engines.regexBuild text).isSome) :
    Built engines now ⟨target, operator, .string text, none⟩ offset binds
      (buildCondition offset binds ⟨target, operator, .string text, none⟩) := by
  rw [buildCondition_list listed]
  cases operator with
  | eq =>
      refine push_built (fun shown => ∃ values, shown = .list values) (view_list listed now)
        id (Datum.includes · (.text text)) (fun _ _ _ _ => applied_eq Datum.includes) ?_
      rintro shown ⟨values, rfl⟩
      rw [View.datum, includes_value]
      exact decides_ok (by simp [View.decide, listStringMatch, Value.asStr])
  | neq =>
      refine push_built (fun shown => ∃ values, shown = .list values) (view_list listed now)
        id (fun datum => ThreeValued.not <$> datum.includes (.text text))
        (fun _ _ _ _ known supplied =>
          congrArg (ThreeValued.not <$> ·) (applied_eq Datum.includes known supplied)) ?_
      rintro shown ⟨values, rfl⟩
      refine decides_congr (not_decides (includes_value values text)) ?_
      simp [View.decide, listStringMatch, Value.asStr]
  | contains =>
      refine push_built (fun shown => ∃ values, shown = .list values) (view_list listed now)
        like_sendable (Datum.exists' fun value => Datum.likeText value ("%" ++ escapeLike text ++ "%"))
        (fun _ _ _ _ => someLike_eq) ?_
      rintro shown ⟨values, rfl⟩
      refine decides_congr (exists_decides fun value _ => likeText_contains value text) ?_
      simp [View.decide, listStringMatch, Value.asStr]
  | regex =>
      obtain ⟨isMatch, compiled⟩ := Option.isSome_iff_exists.mp (compiles rfl)
      refine push_built (fun shown => ∃ values, shown = .list values) (view_list listed now)
        id (Datum.exists' fun value => Datum.regexText engines value text)
        (fun _ _ _ _ => someRegex_eq) ?_
      rintro shown ⟨values, rfl⟩
      have each (value : String) :
          Datum.regexText engines value text = .ok (some (isMatch value)) := by
        rw [Datum.regexText, agrees text isMatch compiled]
        rfl
      refine decides_congr (exists_decides fun value _ => each value) ?_
      simp [View.decide, listStringMatch, Value.asStr, compiled]
  | gt => simp at valid
  | gte => simp at valid
  | lt => simp at valid
  | lte => simp at valid
  | between => simp at valid
  | isIn => simp at valid
  | notIn => simp at valid

end Text

section Lists

variable {items : List Value} {operator : ConditionOperator}

/-- A membership condition needs at least one text in its list. -/
theorem list_single_built (kind : target.kind = .string) (single : ¬ isList target)
    (valid : operator ∈ [.isIn, .notIn]) (present : items.filterMap Value.asStr ≠ []) :
    Built engines now ⟨target, operator, .array items, none⟩ offset binds
      (buildCondition offset binds ⟨target, operator, .array items, none⟩) := by
  have strings : strArray ⟨target, operator, .array items, none⟩ = items.filterMap Value.asStr := rfl
  rw [buildCondition_single single]
  simp only [List.mem_cons, List.not_mem_nil, or_false] at valid
  rcases valid with rfl | rfl
  · simp only [buildScalarCondition, strings, if_neg present]
    refine push_built (fun shown => ∃ actual, shown = .string actual) (view_string kind single now)
      list_sendable (Datum.equalsAny · (.textArray (items.filterMap Value.asStr)))
      (fun _ _ _ _ => applied_eq Datum.equalsAny) ?_
    rintro shown ⟨actual, rfl⟩
    cases actual with
    | none =>
        rw [View.datum, Option.elim_none, equalsAny_null present]
        exact decides_ok (by simp [View.decide, stringMatch])
    | some actual =>
        change Decides (.ok (some ((items.filterMap Value.asStr).contains actual)))
          (listContains (.array items) actual = true)
        rw [listContains_array]
        exact decides_ok (holds_some _)
  · simp only [buildScalarCondition, strings, if_neg present]
    refine push_built (fun shown => ∃ actual, shown = .string actual) (view_string kind single now)
      list_sendable (Datum.unequalAll · (.textArray (items.filterMap Value.asStr)))
      (fun _ _ _ _ => applied_eq Datum.unequalAll) ?_
    rintro shown ⟨actual, rfl⟩
    cases actual with
    | none => exact decides_ok (by simp [View.decide, stringMatch])
    | some actual =>
        change Decides (.ok (some !(items.filterMap Value.asStr).contains actual))
          ((!listContains (.array items) actual) = true)
        rw [listContains_array]
        exact decides_ok (holds_some _)

/-- The clause of a list against an array decides as the evaluator does. -/
theorem list_list_built (listed : isList target) (valid : operator ∈ [.isIn, .notIn])
    (present : items.filterMap Value.asStr ≠ []) :
    Built engines now ⟨target, operator, .array items, none⟩ offset binds
      (buildCondition offset binds ⟨target, operator, .array items, none⟩) := by
  have strings : strArray ⟨target, operator, .array items, none⟩ = items.filterMap Value.asStr := rfl
  rw [buildCondition_list listed]
  simp only [List.mem_cons, List.not_mem_nil, or_false] at valid
  rcases valid with rfl | rfl
  · simp only [buildArrayCondition, strings, if_neg present]
    refine push_built (fun shown => ∃ values, shown = .list values) (view_list listed now)
      list_sendable (Datum.overlaps · (.textArray (items.filterMap Value.asStr)))
      (fun _ _ _ _ => applied_eq Datum.overlaps) ?_
    rintro shown ⟨values, rfl⟩
    rw [View.datum, overlaps_value]
    change Decides _ (values.any (listContains (.array items) ·) = true)
    simp only [listContains_array]
    exact decides_ok (holds_some _)
  · simp only [buildArrayCondition, strings, if_neg present]
    refine push_built (fun shown => ∃ values, shown = .list values) (view_list listed now)
      list_sendable
      (fun datum => ThreeValued.not <$> datum.overlaps (.textArray (items.filterMap Value.asStr)))
      (fun _ _ _ _ known supplied =>
        congrArg (ThreeValued.not <$> ·) (applied_eq Datum.overlaps known supplied)) ?_
    rintro shown ⟨values, rfl⟩
    refine decides_congr (not_decides (overlaps_value values _)) ?_
    change _ ↔ values.all (!listContains (.array items) ·) = true
    simp only [listContains_array]
    rw [List.any_eq_false, List.all_eq_true]
    simp

end Lists

/-- A membership list holds at least one text. -/
def HoldsText (condition : Condition) : Prop :=
  condition.operator ∈ [.isIn, .notIn] → strArray condition ≠ []

/-- Every accepted condition is built, whatever its target and operator. -/
theorem buildCondition_built (agrees : RegexAgrees engines) {condition : Condition}
    (shaped : Shaped engines condition) (present : HoldsText condition) :
    Built engines now condition offset binds (buildCondition offset binds condition) := by
  cases shaped with
  | bool kind value => exact bool_built kind value
  | int kind valid single inside => exact (integer_judges kind valid single inside).built kind
  | range kind first last => exact (range_judges kind first last).built kind
  | @text target operator kind valid text compiles =>
      by_cases listed : isList target
      · exact text_list_built agrees listed valid compiles
      · exact text_single_built agrees kind listed valid compiles
  | @list target operator kind valid items =>
      by_cases listed : isList target
      · exact list_list_built listed valid (present valid)
      · exact list_single_built kind listed valid (present valid)

end Shapes

end OsuPlayerRole.RuleSql
