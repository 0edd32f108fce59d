/-
This file shows which patterns mean the same to the regex crate and to the database.
-/
import OsuPlayerRole.Library.RegexPattern
import OsuPlayerRole.Proof.Rule.ConditionClause
import OsuPlayerRole.Proof.Rule.WellFormedTree
import OsuPlayerRole.Proof.Sample

namespace OsuPlayerRole.RuleSql

open Json ThreeValued ConditionEval RuleValidator Sync RegexPattern

section Engines

variable (engines : Engines) (classes : Shorthand → Char → Bool) (pattern : Pattern .whole)

def LineFree (text : String) : Prop := '\n' ∉ text.toList

instance (text : String) : Decidable (LineFree text) := inferInstanceAs (Decidable (_ ∉ _))

def textOfPattern : String := String.ofList pattern.render

/-- The crate reads the escape as a word boundary. -/
def CrateReads : Prop :=
  ∀ found, engines.regexBuild (textOfPattern pattern) = some found → ∀ text, LineFree text →
    found text = isMatch classes (boundary classes) text.toList pattern

/-- The database reads the escape as the character U+0008, and a quantifier of an anchor or of another
quantifier is an error. -/
structure DatabaseReads : Prop where
  accepts : pattern.strict = true → ∀ text, LineFree text →
    engines.pgRegex text (textOfPattern pattern) = .ok (isMatch classes backspace text.toList pattern)
  rejects : pattern.strict = false → ∀ text,
    ∃ error, engines.pgRegex text (textOfPattern pattern) = .error error

/-- The database finds the pattern in a text that contains the character U+0008. -/
def FindsBackspace (texts : List String) : Prop :=
  ∃ text ∈ texts, '\x08' ∈ text.toList ∧ Found classes backspace text.toList pattern

/-- The pattern has an error in neither engine, and where the crate finds a text, the pattern needs no
escape for it. Only a text that contains the character U+0008 can make up for the escape, and then the crate
finds a text as well. -/
structure ReadAlike (texts : List String) : Prop where
  strict : texts ≠ [] → pattern.strict = true
  dispensable : (∃ text ∈ texts, Found classes (boundary classes) text.toList pattern) →
    (∃ text ∈ texts, Found classes never text.toList pattern) ∨ FindsBackspace classes pattern texts
  matched : FindsBackspace classes pattern texts →
    ∃ text ∈ texts, Found classes (boundary classes) text.toList pattern

variable {classes pattern}

/-- Among texts without U+0008 the pattern is read alike when its matches need no escape. -/
theorem readAlike_of_plain {texts : List String} (plain : ∀ text ∈ texts, '\x08' ∉ text.toList) :
    ReadAlike classes pattern texts ↔ (texts ≠ [] → pattern.strict = true) ∧
      ((∃ text ∈ texts, Found classes (boundary classes) text.toList pattern) →
        ∃ text ∈ texts, Found classes never text.toList pattern) := by
  have none : ¬FindsBackspace classes pattern texts := by
    rintro ⟨text, inside, present, _⟩
    exact plain text inside present
  constructor
  · intro alike
    exact ⟨alike.strict, fun found => (alike.dispensable found).resolve_right none⟩
  · rintro ⟨strict, dispensable⟩
    exact ⟨strict, fun found => .inl (dispensable found), fun found => absurd found none⟩

/-- A pattern without the escape is read alike when the database accepts its quantifiers. -/
theorem readAlike_of_escapeFree (free : pattern.escapeFree = true) (strict : pattern.strict = true)
    (texts : List String) : ReadAlike classes pattern texts where
  strict _ := strict
  dispensable := by
    rintro ⟨text, inside, found⟩
    exact .inl ⟨text, inside, never_of_escapeFree free found⟩
  matched := by
    rintro ⟨text, inside, _, found⟩
    exact ⟨text, inside, found_of_never (never_of_escapeFree free found)⟩

/-- The database finds a text without the escape, or one that contains U+0008. -/
theorem found_backspace_iff (texts : List String) :
    (∃ text ∈ texts, Found classes backspace text.toList pattern) ↔
      (∃ text ∈ texts, Found classes never text.toList pattern) ∨ FindsBackspace classes pattern texts := by
  constructor
  · rintro ⟨text, inside, found⟩
    by_cases present : '\x08' ∈ text.toList
    · exact .inr ⟨text, inside, present, found⟩
    · exact .inl ⟨text, inside, never_of_backspace present found⟩
  · rintro (⟨text, inside, found⟩ | ⟨text, inside, _, found⟩)
    · exact ⟨text, inside, found_of_never found⟩
    · exact ⟨text, inside, found⟩

/-- Both engines find a text, or neither does, exactly when they read the pattern alike. -/
theorem readAlike_iff (strict : pattern.strict = true) (texts : List String) :
    ReadAlike classes pattern texts ↔
      ((∃ text ∈ texts, Found classes backspace text.toList pattern) ↔
        ∃ text ∈ texts, Found classes (boundary classes) text.toList pattern) := by
  rw [found_backspace_iff]
  constructor
  · intro alike
    refine ⟨?_, alike.dispensable⟩
    rintro (⟨text, inside, found⟩ | found)
    · exact ⟨text, inside, found_of_never found⟩
    · exact alike.matched found
  · intro same
    exact ⟨fun _ => strict, same.mpr, fun found => same.mp (.inr found)⟩

end Engines

section Clause

variable {engines : Engines} {classes : Shorthand → Char → Bool} {pattern : Pattern .whole}
  {condition : Condition} {now : Timestamp} {row : JoinedRow} {facts : FactsRow}

/-- The texts that a target shows. -/
def View.texts : View → List String
  | .string value => value.toList
  | .list values => values
  | _ => []

/-- The search of the database in what the target shows. -/
def searched (engines : Engines) (text : String) : View → Except DbError Truth
  | .list values => Datum.exists' (fun value => Datum.regexText engines value text) (.array (values.map some))
  | shown => Datum.matchesRegex engines shown.datum (.text text)

/-- The expression of a text target does not depend on the clock. -/
theorem targetExpr_text (kind : condition.target.kind = .string) (readable : Readable row) :
    (targetExpr condition.target).value now row =
      .ok (view now (readRow row).facts condition.target).datum := by
  generalize condition.target = target at kind
  cases target with
  | countryCode => rfl
  | username => rfl
  | groupName =>
      exact congrArg (fun elements => Except.ok (Datum.array elements))
        (restore_elements readable.groups).symm
  | playstyle =>
      exact congrArg (fun elements => Except.ok (Datum.array elements))
        (restore_elements readable.playstyles).symm
  | _ => cases kind

/-- A clause over a pattern is true where the database's search finds the pattern. -/
theorem regex_truth {text : String} (kind : condition.target.kind = .string)
    (regex : condition.operator = .regex) (written : condition.value = .string text)
    (readable : Readable row) (prior binds later : List Bind) :
    (buildCondition prior.length binds condition).1.truth engines
        (prior ++ (buildCondition prior.length binds condition).2 ++ later) now row =
      searched engines text (view now (readRow row).facts condition.target) := by
  have value := @targetExpr_text condition now row kind readable
  have supplied : parameter (prior ++ (binds ++ [.text text]) ++ later) (nextIndex prior.length binds) =
      .ok (.text text) := supplies_parameter (supplies_own prior binds _ later) 0 rfl
  by_cases listed : isList condition.target
  · obtain ⟨values, shown⟩ := view_list listed now (readRow row).facts
    rw [buildCondition_list listed, shown]
    unfold buildArrayCondition
    rw [regex, written]
    rw [shown] at value
    exact someRegex_eq value supplied
  · obtain ⟨actual, shown⟩ := view_string kind listed now (readRow row).facts
    rw [buildCondition_single listed, shown]
    unfold buildScalarCondition
    rw [regex, written]
    rw [shown] at value
    exact applied_eq (Datum.matchesRegex engines) value supplied

/-- The shown value of a text target is a text that may be missing, or a list of texts. -/
inductive ShowsTexts : View → Prop where
  | single (value : Option String) : ShowsTexts (.string value)
  | list (values : List String) : ShowsTexts (.list values)

theorem showsTexts_of_kind (kind : condition.target.kind = .string) (facts : Facts) :
    ShowsTexts (view now facts condition.target) := by
  by_cases listed : isList condition.target
  · obtain ⟨values, shown⟩ := view_list listed now facts
    rw [shown]
    exact .list values
  · obtain ⟨value, shown⟩ := view_string kind listed now facts
    rw [shown]
    exact .single value

/-- The evaluator searches the texts with the compiled pattern. -/
theorem decide_regex {text : String} {found : String → Bool} {shown : View} (texts : ShowsTexts shown)
    (regex : condition.operator = .regex) (written : condition.value = .string text)
    (compiled : engines.regexBuild text = some found) :
    shown.decide engines condition = true ↔ ∃ value ∈ shown.texts, found value = true := by
  cases texts with
  | single value =>
      cases value with
      | none => simp [View.decide, View.texts, stringMatch, regex]
      | some actual => simp [View.decide, View.texts, stringMatch, regex, written, Value.asStr, compiled]
  | list values => simp [View.decide, View.texts, listStringMatch, regex, written, Value.asStr, compiled]

/-- A search over texts decides whether one of them is found. -/
theorem searched_decides {text : String} {matched : String → Bool} {shown : View} (texts : ShowsTexts shown)
    (each : ∀ value ∈ shown.texts, engines.pgRegex value text = .ok (matched value)) :
    Decides (searched engines text shown) (∃ value ∈ shown.texts, matched value = true) := by
  cases texts with
  | single value =>
      cases value with
      | none => exact decides_ok (by simp [View.texts])
      | some actual =>
          change Decides (some <$> engines.pgRegex actual text) _
          rw [each actual (List.mem_singleton_self actual)]
          exact decides_ok (by simp [View.texts])
  | list values =>
      have known : ∀ value ∈ values, Datum.regexText engines value text = .ok (some (matched value)) := by
        intro value inside
        rw [Datum.regexText, each value inside]
        rfl
      exact decides_congr (exists_decides known) List.any_eq_true

/-- A pattern that the database rejects fails the search of any text. -/
theorem searched_rejects {text : String} {shown : View} (texts : ShowsTexts shown)
    (rejects : ∀ value, ∃ error, engines.pgRegex value text = .error error) (present : shown.texts ≠ []) :
    ∃ error, searched engines text shown = .error error := by
  cases texts with
  | single value =>
      cases value with
      | none => exact absurd rfl present
      | some actual =>
          obtain ⟨error, failed⟩ := rejects actual
          refine ⟨error, ?_⟩
          change some <$> engines.pgRegex actual text = _
          rw [failed]
          rfl
  | list values =>
      cases values with
      | nil => exact absurd rfl present
      | cons first rest =>
          obtain ⟨error, failed⟩ := rejects first
          refine ⟨error, ?_⟩
          change Datum.exists' _ (.array (some first :: rest.map some)) = _
          unfold Datum.exists'
          dsimp only
          rw [List.mapM_cons]
          change ((some <$> engines.pgRegex first text) >>= _) >>= _ = _
          rw [failed]
          rfl

/-- The saved pattern leads to one verdict in both paths exactly when the engines read it alike on the
texts of the player. -/
theorem pattern_verdicts_agree (crate : CrateReads engines classes pattern)
    (database : DatabaseReads engines classes pattern) {groupNum condNum : Nat} {raw : ConditionInput}
    (accepted : validateCondition engines groupNum condNum raw = .ok condition)
    (regex : condition.operator = .regex) (written : condition.value = .string (textOfPattern pattern))
    (read : factsSelect row = .ok facts)
    (lines : ∀ text ∈ (view now facts.facts condition.target).texts, LineFree text)
    (prior binds later : List Bind) :
    Decides ((buildCondition prior.length binds condition).1.truth engines
        (prior ++ (buildCondition prior.length binds condition).2 ++ later) now row)
      (evaluateSingle engines now condition facts.facts = true) ↔
      ReadAlike classes pattern (view now facts.facts condition.target).texts := by
  have validated := validateCondition_eq_ok.mp accepted
  have kind : condition.target.kind = .string := string_of_regex (regex ▸ validated.valid)
  have readable := readable_of_factsSelect read
  obtain rfl : readRow row = facts := Except.ok.inj ((factsSelect_readable readable).symm.trans read)
  have compiles := validated.pattern regex
  rw [written] at compiles
  obtain ⟨found, compiled⟩ := Option.isSome_iff_exists.mp compiles
  have texts := @showsTexts_of_kind condition now kind (readRow row).facts
  rw [regex_truth kind regex written readable, evaluateSingle_view,
    decide_regex texts regex written compiled]
  generalize view now (readRow row).facts condition.target = shown at lines texts ⊢
  have evaluated : (∃ value ∈ shown.texts, found value = true) ↔
      ∃ value ∈ shown.texts, Found classes (boundary classes) value.toList pattern := by
    refine exists_congr fun value => and_congr_right fun inside => ?_
    rw [crate found compiled value (lines value inside), isMatch_iff]
  rw [evaluated]
  cases strict : pattern.strict with
  | true =>
      rw [readAlike_iff strict]
      refine (decides_iff (searched_decides texts fun value inside =>
        database.accepts strict value (lines value inside))).trans (iff_congr ?_ Iff.rfl)
      exact exists_congr fun value => and_congr_right fun _ => isMatch_iff pattern
  | false =>
      by_cases absent : shown.texts = []
      · refine iff_of_true ?_ ⟨fun present => absurd absent present, ?_, ?_⟩
        · refine decides_congr (@searched_decides engines _ (fun _ => false) shown texts ?_) ?_
          · rw [absent]
            exact fun value impossible => absurd impossible List.not_mem_nil
          · simp [absent]
        · rw [absent]
          rintro ⟨value, impossible, _⟩
          exact absurd impossible List.not_mem_nil
        · rw [absent]
          rintro ⟨value, impossible, _⟩
          exact absurd impossible List.not_mem_nil
      · refine iff_of_false ?_ fun alike => ?_
        · rintro ⟨truth, answered, _⟩
          obtain ⟨error, failed⟩ := searched_rejects texts (database.rejects strict) absent
          cases failed.symm.trans answered
        · cases strict.symm.trans (alike.strict absent)

end Clause

section Player

def asciiClasses : Shorthand → Char → Bool
  | .digit, character => character.isDigit
  | .word, character => character.isAlphanum || character == '_'
  | .space, character => character.isWhitespace

/-- These engines know one pattern. -/
def readingEngines (pattern : Pattern .whole) : Engines where
  showFloat _ := "0.0"
  regexBuild text :=
    if text = textOfPattern pattern then
      some fun value => isMatch asciiClasses (boundary asciiClasses) value.toList pattern
    else none
  pgRegex value text :=
    if text = textOfPattern pattern ∧ pattern.strict = true then
      .ok (isMatch asciiClasses backspace value.toList pattern)
    else .error .invalidRegularExpression

/-- The crate's half of the engine reads the pattern as the crate does. -/
theorem readingEngines_crate (pattern : Pattern .whole) :
    CrateReads (readingEngines pattern) asciiClasses pattern := by
  intro found compiled text _
  cases (if_pos rfl).symm.trans compiled
  rfl

/-- The database's half reads it as PostgreSQL does. -/
theorem readingEngines_database (pattern : Pattern .whole) :
    DatabaseReads (readingEngines pattern) asciiClasses pattern where
  accepts strict _ _ := if_pos ⟨rfl, strict⟩
  rejects lax text := ⟨.invalidRegularExpression, if_neg fun accepted => by
    cases lax.symm.trans accepted.2⟩

def letters (text : List { character : Char // character ∉ special }) (rest : Pattern .branch) :
    Pattern .branch :=
  text.foldr (fun character => .piece (.test (.literal character)) []) rest

def play : List { character : Char // character ∉ special } :=
  [⟨'p', by decide⟩, ⟨'l', by decide⟩, ⟨'a', by decide⟩, ⟨'y', by decide⟩]

/-- The pattern `^play`. -/
def playPattern : Pattern .whole := .single (.start [] (letters play .empty))

/-- The pattern `\bplayer\b`. -/
def wordPattern : Pattern .whole :=
  .single (.piece .escape []
    (letters (play ++ [⟨'e', by decide⟩, ⟨'r', by decide⟩]) (.piece .escape [] .empty)))

def patternCondition (pattern : Pattern .whole) : Condition :=
  ⟨.username, .regex, .string (textOfPattern pattern), none⟩

/-- The validation accepts a pattern that both halves compile. -/
theorem pattern_accepted {pattern : Pattern .whole} (present : RustText.trim (textOfPattern pattern) ≠ "") :
    validateCondition (readingEngines pattern) 1 1
      ⟨"username", "regex", .string (textOfPattern pattern), none⟩ = .ok (patternCondition pattern) := by
  have target : ConditionTarget.fromKey (RustText.trim "username") = some .username := by decide +kernel
  have operator : ConditionOperator.fromKey (RustText.trim "regex") = some .regex := by decide +kernel
  refine validateCondition_eq_ok.mpr ⟨target, operator, rfl, fun _ => if_neg present, fun _ => rfl,
    fun _ => ?_⟩
  exact congrArg Option.isSome (if_pos rfl)

/-- The player has the name "player". -/
def playerRow : JoinedRow := ⟨Sample.user "1" 7, none⟩

theorem playerRow_read : factsSelect playerRow = .ok (readRow playerRow) :=
  factsSelect_readable ⟨fun _ => nofun, fun _ => nofun, fun _ => nofun, fun _ => nofun⟩

/-- The player satisfies the pattern `^play` in both paths. -/
theorem play_verdicts_agree :
    Decides ((buildCondition 0 [] (patternCondition playPattern)).1.truth (readingEngines playPattern)
        ((buildCondition 0 [] (patternCondition playPattern)).2 ++ []) 0 playerRow)
      (evaluateSingle (readingEngines playPattern) 0 (patternCondition playPattern)
        (readRow playerRow).facts = true) :=
  (pattern_verdicts_agree (readingEngines_crate playPattern) (readingEngines_database playPattern)
    (pattern_accepted (by decide +kernel)) rfl rfl playerRow_read (by decide +kernel) [] [] []).mpr
    (readAlike_of_escapeFree (by decide) (by decide) _)

/-- The crate finds the word, and the database looks for the character U+0008 around it. -/
theorem word_verdicts_disagree :
    CrateReads (readingEngines wordPattern) asciiClasses wordPattern ∧
      DatabaseReads (readingEngines wordPattern) asciiClasses wordPattern ∧
      validateCondition (readingEngines wordPattern) 1 1
        ⟨"username", "regex", .string (textOfPattern wordPattern), none⟩ =
          .ok (patternCondition wordPattern) ∧
      factsSelect playerRow = .ok (readRow playerRow) ∧
      ¬ Decides ((buildCondition 0 [] (patternCondition wordPattern)).1.truth (readingEngines wordPattern)
          (buildCondition 0 [] (patternCondition wordPattern)).2 0 playerRow)
        (evaluateSingle (readingEngines wordPattern) 0 (patternCondition wordPattern)
          (readRow playerRow).facts = true) := by
  refine ⟨readingEngines_crate wordPattern, readingEngines_database wordPattern,
    pattern_accepted (by decide +kernel), playerRow_read, ?_⟩
  rintro ⟨truth, answered, decides⟩
  have satisfied : evaluateSingle (readingEngines wordPattern) 0 (patternCondition wordPattern)
      (readRow playerRow).facts = true := by
    decide +kernel
  have denied : (buildCondition 0 [] (patternCondition wordPattern)).1.truth (readingEngines wordPattern)
      (buildCondition 0 [] (patternCondition wordPattern)).2 0 playerRow = .ok (some false) := by
    decide +kernel
  cases denied.symm.trans answered
  cases decides.mpr satisfied

end Player

end OsuPlayerRole.RuleSql
