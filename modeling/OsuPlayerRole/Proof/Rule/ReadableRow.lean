/-
This file says which joined rows the facts query can read, and what it reads there.
-/
import OsuPlayerRole.Construction.Services.FactsRow
import OsuPlayerRole.Library.Checked

namespace OsuPlayerRole.Sync

open RuleSql Checked

abbrev FitsInt4 (value : Int) : Prop := -2 ^ 31 ≤ value ∧ value < 2 ^ 31

/-- The arrays have no null element, and the two sums of grade counts fit their type. -/
structure Readable (row : JoinedRow) : Prop where
  groups : ∀ element ∈ row.user.groups, element.isSome
  playstyles : ∀ element ∈ row.user.playstyles, element.isSome
  ssCount : ∀ stats ∈ row.stats, FitsInt4 (stats.countSs + stats.countSsSilver)
  sCount : ∀ stats ∈ row.stats, FitsInt4 (stats.countS + stats.countSSilver)

def statInt (row : JoinedRow) (column : OsuStats → Int) : Int := (row.stats.map column).getD 0

/-- This is what the facts query reads from a readable row. -/
def readRow (row : JoinedRow) : FactsRow where
  isSupporter := row.user.isSupporter
  isActive := row.user.isActive
  isRestricted := row.user.isRestricted
  hasBadge := decide (0 < row.user.badgeCount.val)
  hasGroupBadge := !row.user.groups.isEmpty
  osuJoinedAt := row.user.osuJoinedAt
  lastVisitAt := row.user.lastVisitAt
  badgeCount := row.user.badgeCount
  followerCount := row.user.followerCount
  mappingSubscribers := row.user.mappingFollowers
  kudosu := row.user.kudosuTotal
  rankedBeatmaps := row.user.rankedBeatmaps
  lovedBeatmaps := row.user.lovedBeatmaps
  mappingPlaycount := row.user.mappingPlaycount
  replaysWatchedByOthers := row.user.replaysWatchedOthers
  favouriteCount := row.user.favouriteBeatmapsets
  countryCode := row.user.countryCode
  username := row.user.osuUsername
  groups := row.user.groups.map fun element => element.getD ""
  playstyles := row.user.playstyles.map fun element => element.getD ""
  globalRank := row.stats.bind fun stats => stats.globalRank.map Subtype.val
  countryRank := row.stats.bind fun stats => stats.countryRank.map Subtype.val
  performancePoints := statInt row fun stats => stats.performancePoints
  playCount := statInt row fun stats => stats.playCount
  playTimeHours := statInt row fun stats => stats.playTimeHours
  totalScore := statInt row fun stats => stats.totalScore
  rankedScore := statInt row fun stats => stats.rankedScore
  hitAccuracy := statInt row fun stats => stats.hitAccuracy
  maxCombo := statInt row fun stats => stats.maxCombo
  levelInt := statInt row fun stats => stats.levelInt
  ssCount := statInt row fun stats => stats.countSs + stats.countSsSilver
  sCount := statInt row fun stats => stats.countS + stats.countSSilver
  aCount := statInt row fun stats => stats.countA

section Columns

variable {row : JoinedRow} {label : String} (column : Column)

/-- A selected column is an expression with its decoder. -/
theorem selected_eq {A : Type} (decoder : Decoder A) (expr : Expr) :
    selected row decoder label expr = Expr.value 0 row expr >>= decoder label := rfl

/-- A column is decoded as it is stored. -/
theorem selected_read {A : Type} (decoder : Decoder A) :
    selected row decoder label (.read column) = decoder label (column.value row) := rfl

/-- A sum within the type INTEGER is computed. -/
theorem sumOf_fits {first second : Int} (fits : FitsInt4 (first + second)) :
    Expr.sumOf (.int first) (.int second) = .ok (.int (first + second)) := by
  unfold Expr.sumOf
  dsimp only
  rw [Int4.ofInt, dif_pos fits]
  rfl

/-- A sum beyond the type INTEGER is an error. -/
theorem sumOf_overflows {first second : Int} (overflows : ¬ FitsInt4 (first + second)) :
    Expr.sumOf (.int first) (.int second) = .error .integerOutOfRange := by
  unfold Expr.sumOf
  dsimp only
  rw [Int4.ofInt, dif_neg overflows]
  rfl

/-- A sum that fits is the exact sum. A row without statistics has the sum zero. -/
theorem sum_value (first second : Column) {left right : OsuStats → Int} {now : Timestamp}
    (firstValue : first.value row = Column.ofStats row fun stats => .int (left stats))
    (secondValue : second.value row = Column.ofStats row fun stats => .int (right stats))
    (fits : ∀ stats ∈ row.stats, FitsInt4 (left stats + right stats)) :
    Expr.value now row (.coalesceZero (.plus (.read first) (.read second))) =
      .ok (.int (statInt row fun stats => left stats + right stats)) := by
  change Expr.coalesce (.int 0) <$> Expr.sumOf (first.value row) (second.value row) = _
  rw [firstValue, secondValue]
  unfold Column.ofStats statInt
  cases present : row.stats with
  | none => rfl
  | some stats =>
      simp only [Option.map_some, Option.getD_some]
      rw [sumOf_fits (fits stats present)]
      rfl

/-- A sum beyond the type fails the statement. -/
theorem sum_error (first second : Column) {left right : OsuStats → Int} {stats : OsuStats}
    (firstValue : first.value row = Column.ofStats row fun stats => .int (left stats))
    (secondValue : second.value row = Column.ofStats row fun stats => .int (right stats))
    (present : row.stats = some stats) (overflows : ¬ FitsInt4 (left stats + right stats)) :
    selected row .int label (.coalesceZero (.plus (.read first) (.read second))) =
      .error .integerOutOfRange := by
  change (Expr.coalesce (.int 0) <$> Expr.sumOf (first.value row) (second.value row) >>=
    Decoder.int label) = _
  rw [firstValue, secondValue, Column.ofStats, Column.ofStats, present, Option.map_some,
    Option.map_some, Option.getD_some, Option.getD_some, sumOf_overflows overflows]
  rfl

/-- An array without NULL is read as its texts. -/
theorem texts_value {elements : List (Option String)} (value : column.value row = .array elements)
    (present : ∀ element ∈ elements, element.isSome) :
    selected row .texts label (.read column) = .ok (elements.map fun element => element.getD "") := by
  have decoded : elements.mapM (fun element : Option String =>
      element.elim (.error (.unexpectedNull label)) Except.ok) =
      (.ok (elements.map fun element => element.getD "") : Except DbError _) := by
    refine mapM_ok fun element member => ?_
    obtain ⟨text, rfl⟩ := Option.isSome_iff_exists.mp (present element member)
    rfl
  rw [selected_read, value]
  exact decoded

/-- A null element fails the decoding. -/
theorem texts_error {elements : List (Option String)} (value : column.value row = .array elements)
    (missing : none ∈ elements) :
    ∃ error, selected row .texts label (.read column) = .error error := by
  rw [selected_read, value]
  exact mapM_error missing rfl

/-- A column that may be NULL is read as a text or nothing. -/
theorem text_optional {text : Option String} (value : column.value row = text.elim .null .text) :
    selected row (.optional .text) label (.read column) = .ok text := by
  rw [selected_read, value]
  cases text <;> rfl

/-- A column that may be NULL is read as an instant or nothing. -/
theorem instant_optional {instant : Option Timestamp}
    (value : column.value row = instant.elim .null .instant) :
    selected row (.optional .instant) label (.read column) = .ok instant := by
  rw [selected_read, value]
  cases instant <;> rfl

/-- A rank is NULL without statistics. -/
theorem rank_value {rank : OsuStats → Option Int4} {now : Timestamp}
    (value : column.value row =
      Column.ofStats row fun stats => (rank stats).elim .null fun place => .int place) :
    Expr.value now row (.read column) =
      .ok ((row.stats.bind fun stats => (rank stats).map Subtype.val).elim .null .int) := by
  change Except.ok (column.value row) = _
  rw [value]
  unfold Column.ofStats
  cases row.stats with
  | none => rfl
  | some stats =>
      rw [Option.map_some, Option.getD_some, Option.bind_some]
      cases rank stats <;> rfl

/-- A rank is read as a number or nothing. -/
theorem rank_optional {rank : OsuStats → Option Int4}
    (value : column.value row =
      Column.ofStats row fun stats => (rank stats).elim .null fun place => .int place) :
    selected row (.optional .int) label (.read column) =
      .ok (row.stats.bind fun stats => (rank stats).map Subtype.val) := by
  rw [selected_eq, rank_value column value]
  cases row.stats.bind fun stats => (rank stats).map Subtype.val <;> rfl

/-- A counter is zero without statistics. -/
theorem stat_value {stat : OsuStats → Int} {now : Timestamp}
    (value : column.value row = Column.ofStats row fun stats => .int (stat stats)) :
    Expr.value now row (.coalesceZero (.read column)) = .ok (.int (statInt row stat)) := by
  change Except.ok (Expr.coalesce (.int 0) (column.value row)) = _
  rw [value]
  unfold Column.ofStats statInt
  cases row.stats <;> rfl

/-- A counter is read as a number. -/
theorem stat_selected {stat : OsuStats → Int}
    (value : column.value row = Column.ofStats row fun stats => .int (stat stats)) :
    selected row .int label (.coalesceZero (.read column)) = .ok (statInt row stat) := by
  rw [selected_eq, stat_value column value]
  rfl

/-- The sum of two counters is read where it fits. -/
theorem sum_selected (first second : Column) {left right : OsuStats → Int}
    (firstValue : first.value row = Column.ofStats row fun stats => .int (left stats))
    (secondValue : second.value row = Column.ofStats row fun stats => .int (right stats))
    (fits : ∀ stats ∈ row.stats, FitsInt4 (left stats + right stats)) :
    selected row .int label (.coalesceZero (.plus (.read first) (.read second))) =
      .ok (statInt row fun stats => left stats + right stats) := by
  rw [selected_eq, sum_value first second firstValue secondValue fits]
  rfl

/-- The supporter groups count by their presence. -/
theorem groups_value {now : Timestamp} :
    Expr.value now row (.positive (.coalesceZero (.arrayLength (.read .groups)))) =
      .ok (.bool !row.user.groups.isEmpty) := by
  change (Expr.coalesce (.int 0) <$> Expr.lengthOf (.array row.user.groups)) >>= Expr.positiveOf = _
  cases row.user.groups with
  | nil => rfl
  | cons first rest =>
      change Except.ok (Datum.bool (decide ((0 : Int) < ((first :: rest).length : Nat)))) = _
      simp

/-- The presence of groups is read as a truth value. -/
theorem groups_selected : selected row .bool label
    (.positive (.coalesceZero (.arrayLength (.read .groups)))) = .ok !row.user.groups.isEmpty := by
  rw [selected_eq, groups_value]
  rfl

end Columns

/-- The query reads a readable row. -/
theorem factsSelect_readable {row : JoinedRow} (readable : Readable row) :
    factsSelect row = .ok (readRow row) := by
  unfold factsSelect
  rw [groups_selected, instant_optional .lastVisitAt rfl,
    text_optional .countryCode rfl, texts_value .groups rfl readable.groups,
    texts_value .playstyles rfl readable.playstyles,
    rank_optional .globalRank rfl, rank_optional .countryRank rfl,
    stat_selected .performancePoints rfl, stat_selected .playCount rfl,
    stat_selected .playTimeHours rfl, stat_selected .totalScore rfl,
    stat_selected .rankedScore rfl, stat_selected .hitAccuracy rfl,
    stat_selected .maxCombo rfl, stat_selected .levelInt rfl,
    sum_selected .countSs .countSsSilver rfl rfl readable.ssCount,
    sum_selected .countS .countSSilver rfl rfl readable.sCount,
    stat_selected .countA rfl]
  rfl

/-- An array that is not complete holds a NULL. -/
theorem none_mem {elements : List (Option String)}
    (missing : ¬ ∀ element ∈ elements, element.isSome) : none ∈ elements := by
  simp only [not_forall] at missing
  obtain ⟨element, member, absent⟩ := missing
  rwa [Option.not_isSome_iff_eq_none.mp absent] at member

/-- The query fails on every other row. -/
theorem readable_of_factsSelect {row : JoinedRow} {facts : FactsRow}
    (selectedFacts : factsSelect row = .ok facts) : Readable row := by
  unfold factsSelect at selectedFacts
  rw [groups_selected, instant_optional .lastVisitAt rfl,
    text_optional .countryCode rfl, rank_optional .globalRank rfl,
    rank_optional .countryRank rfl,
    stat_selected .performancePoints rfl, stat_selected .playCount rfl,
    stat_selected .playTimeHours rfl, stat_selected .totalScore rfl,
    stat_selected .rankedScore rfl, stat_selected .hitAccuracy rfl,
    stat_selected .maxCombo rfl, stat_selected .levelInt rfl]
    at selectedFacts
  have groups : ∀ element ∈ row.user.groups, element.isSome := by
    by_contra missing
    obtain ⟨error, failed⟩ := texts_error .groups rfl
      (none_mem missing)
    rw [failed] at selectedFacts
    cases selectedFacts
  rw [texts_value .groups rfl groups] at selectedFacts
  have playstyles : ∀ element ∈ row.user.playstyles, element.isSome := by
    by_contra missing
    obtain ⟨error, failed⟩ := texts_error .playstyles rfl
      (none_mem missing)
    rw [failed] at selectedFacts
    cases selectedFacts
  rw [texts_value .playstyles rfl playstyles] at selectedFacts
  have ssCount : ∀ stats ∈ row.stats, FitsInt4 (stats.countSs + stats.countSsSilver) := by
    intro stats present
    by_contra overflows
    rw [sum_error .countSs .countSsSilver rfl rfl present overflows] at selectedFacts
    cases selectedFacts
  rw [sum_selected .countSs .countSsSilver rfl rfl ssCount] at selectedFacts
  have sCount : ∀ stats ∈ row.stats, FitsInt4 (stats.countS + stats.countSSilver) := by
    intro stats present
    by_contra overflows
    rw [sum_error .countS .countSSilver rfl rfl present overflows] at selectedFacts
    cases selectedFacts
  exact ⟨groups, playstyles, ssCount, sCount⟩

end OsuPlayerRole.Sync
