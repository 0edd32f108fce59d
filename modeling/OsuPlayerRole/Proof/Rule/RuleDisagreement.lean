/-
This file shows that an unreadable member row makes the two jobs disagree.
-/
import OsuPlayerRole.Proof.Rule.RuleAgreement
import OsuPlayerRole.Proof.Sample

namespace OsuPlayerRole.Sync

open Json ThreeValued ConditionEval RuleValidator RuleSql Resumption Checked

section Necessity

variable {engines : Engines} {world : World} {members : List DiscordId} {mode : Mode}

def grantTree (mode : Mode) : RuleTree := ⟨true, mode, []⟩

def supporterCondition (flag : Bool) : Condition := ⟨.isSupporter, .eq, .bool flag, none⟩

/-- This tree asks for one value of a profile column that is never null. -/
def supporterTree (mode : Mode) (flag : Bool) : RuleTree :=
  ⟨false, mode, [⟨[supporterCondition flag]⟩]⟩

/-- The validator accepts the tree that grants to every player. -/
theorem grantTree_offered (mode : Mode) : Offered engines (grantTree mode) := by
  refine Or.inr ⟨⟨⟨true, some mode.asStr, []⟩, ?_⟩, by simp [grantTree]⟩
  cases mode <;> rfl

/-- The name of the target is known. -/
theorem supporter_target : ConditionTarget.fromKey (RustText.trim "is_supporter") = some .isSupporter := by
  decide

/-- The name of the operator is known. -/
theorem eq_operator : ConditionOperator.fromKey (RustText.trim "eq") = some .eq := by
  decide

/-- The validator accepts the condition on the supporter tag. -/
theorem supporter_validated (flag : Bool) :
    validateCondition engines 1 1 ⟨"is_supporter", "eq", .bool flag, none⟩ =
      .ok (supporterCondition flag) := by
  rw [validateCondition]
  dsimp only
  rw [supporter_target, eq_operator]
  rfl

/-- The parser accepts the body with this condition. -/
theorem supporter_parsed (mode : Mode) (flag : Bool) :
    parseRuleTree engines
      ⟨false, some mode.asStr, [⟨[⟨"is_supporter", "eq", .bool flag, none⟩]⟩]⟩ =
      .ok (supporterTree mode flag) := by
  have known : parseMode (some mode.asStr) = .ok mode := by
    cases mode <;> rfl
  have groups : validateGroups engines 1 [⟨[⟨"is_supporter", "eq", .bool flag, none⟩]⟩] =
      .ok [⟨[supporterCondition flag]⟩] := by
    simp only [validateGroups, validateConditions, supporter_validated]
    rfl
  simp [parseRuleTree, known, groups, maxGroups, supporterTree, bind, Except.bind, pure, Except.pure]

/-- The tree with this condition is offered in every mode. -/
theorem supporterTree_offered (mode : Mode) (flag : Bool) :
    Offered engines (supporterTree mode flag) := by
  refine Or.inr ⟨⟨_, supporter_parsed mode flag⟩, ?_⟩
  intro group member condition inside listed
  simp only [supporterTree, List.mem_singleton] at member
  subst member
  rw [List.mem_singleton] at inside
  subst inside
  simp [supporterCondition] at listed

def grantColumn (mode : Mode) : Jsonb := ⟨(grantTree mode).toValue, by cases mode <;> decide⟩

def supporterColumn (mode : Mode) (flag : Bool) : Jsonb :=
  ⟨(supporterTree mode flag).toValue, by cases mode <;> cases flag <;> decide⟩

/-- The tree that grants to every player is read back. -/
theorem grantColumn_read (mode : Mode) : RuleTree.ofColumn (grantColumn mode).value = grantTree mode := by
  cases mode <;> rfl

/-- The tree with the condition is read back. -/
theorem supporterColumn_read (mode : Mode) (flag : Bool) :
    RuleTree.ofColumn (supporterColumn mode flag).value = supporterTree mode flag := by
  cases mode <;> rfl

/-- The clause of the tree compares the column in every row, readable or not. -/
theorem supporterTree_decides {user : OsuUser} {stats : Option OsuStats} {first second : RuleSql.Bind}
    (flag : Bool) {now : Timestamp} :
    Decides ((Where.anyOf [[.equal (.coalesceFalse (.read .isSupporter)) 3]]).truth engines
      ([first, second] ++ [.bool flag]) now ⟨user, stats⟩) (user.isSupporter = flag) := by
  have clause : Decides ((Clause.equal (.coalesceFalse (.read .isSupporter)) 3).truth engines
      ([first, second] ++ [.bool flag]) now ⟨user, stats⟩) (user.isSupporter = flag) := by
    change Decides (.ok (some (user.isSupporter == flag))) _
    exact decides_ok (by simp)
  exact any_singleton (all_singleton clause)

/-- The bulk query accepts the list of members when the granting tree agrees. -/
theorem sent_of_agree (agree : PathsAgree engines world members mode) {user : OsuUser}
    (stored : user ∈ world.tables.osuUsers.rows) (member : user.discordId ∈ members) :
    send [.textArray members] = .ok () := by
  have alike := agree (grantTree mode) (grantColumn mode) (grantTree_offered mode) rfl rfl
    user.discordId member
  exact (grant_agrees (grantColumn mode) (grantColumn_read mode) rfl member).mp alike
    ((find_isSome_eq _).mpr ⟨user, stored, rfl⟩)

/-- The facts query reads the row of a linked member when a tree with groups agrees. -/
theorem readable_of_agree (agree : PathsAgree engines world members mode) {user : OsuUser}
    (stored : user ∈ world.tables.osuUsers.rows) (member : user.discordId ∈ members) :
    Readable ⟨user, world.tables.statsOf user mode⟩ := by
  have read := supporterColumn_read mode user.isSupporter
  have sent := sent_of_agree agree stored member
  have nonempty : members.isEmpty = false := by
    rw [List.isEmpty_eq_false_iff_exists_mem]
    exact ⟨_, member⟩
  have positive := (agree (supporterTree mode user.isSupporter) (supporterColumn mode user.isSupporter)
    (supporterTree_offered mode _) rfl rfl user.discordId member).mpr (by
      rw [read]
      have query : uncapped engines world members (supporterTree mode user.isSupporter) =
          qualifyingIds engines world.now world.tables mode members
            (.anyOf [[.equal (.coalesceFalse (.read .isSupporter)) 3]]) [.bool user.isSupporter] := by
        simp only [uncapped, supporterTree, nonempty]
        rfl
      rw [query, mem_qualifyingIds (by simp [Bind.sendable]) sent
        fun other _ => supporterTree_decides user.isSupporter]
      exact ⟨user, stored, rfl, member, rfl⟩)
  rw [verdict_eq _ read] at positive
  obtain ⟨found, selected, _⟩ := bind_ok positive
  exact readable_of_selectFacts stored (mapError_ok.mp selected)

end Necessity

/-- The two jobs decide every stored tree of a mode alike exactly when the list of members can be
sent and the facts query can read the row of every linked member. A single tree is decided alike for a
member with less, and a tree without groups only with that. -/
theorem player_and_bulk_agree (engines : Engines) (agrees : RegexAgrees engines) (world : World)
    (members : List DiscordId) (mode : Mode)
    (past : ∀ user ∈ world.tables.osuUsers.rows, user.discordId ∈ members → Past world.now user) :
    (PathsAgree engines world members mode ↔ ReadableMembers world members mode) ∧
      ∀ (tree : RuleTree) (column : Jsonb), Offered engines tree → column.value = tree.toValue →
        ∀ discordId ∈ members,
          (Served world members tree discordId → Alike engines world members column discordId) ∧
            (tree.groups = [] → Alike engines world members column discordId →
              Served world members tree discordId) := by
  refine ⟨⟨fun agree user stored member => ?_, pathsAgree_of_readable agrees past⟩, ?_⟩
  · exact ⟨sent_of_agree agree stored member, readable_of_agree agree stored member⟩
  · intro tree column offered stored discordId member
    exact ⟨alike_of_served agrees past offered stored member,
      served_of_alike offered stored member⟩

section Overflow

/-- The two sample engines agree. -/
theorem letterEngines_agree : RegexAgrees Sample.letterEngines := by
  intro pattern isMatch compiled text
  simp only [Sample.letterEngines, Option.ite_none_right_eq_some, Option.some.injEq] at compiled
  rw [← compiled.2]
  rfl

def gradeWorld (statistics : OsuStats) (same : statistics.osuUserId = 7) : World where
  tables := Sample.oneUser (Sample.user "1" 7) statistics same.symm
  remote _ := ∅
  guildsOf _ := []
  membersOf _ := ["1"]
  userLimit _ := 100
  now := 0

/-- The silver grade carries the sum beyond the type INTEGER. -/
def overflowStats : OsuStats :=
  { Sample.stats 7 .osu with countSs := .largest, countSsSilver := .one }

/-- No instant of the sample lies ahead of the clock. -/
theorem gradeWorld_past (statistics : OsuStats) (same : statistics.osuUserId = 7) :
    ∀ user ∈ (gradeWorld statistics same).tables.osuUsers.rows, user.discordId ∈ ["1"] →
      Past (gradeWorld statistics same).now user := by
  intro user stored _
  rw [show user = Sample.user "1" 7 from List.mem_singleton.mp stored]
  exact ⟨le_refl _, by simp [Sample.user]⟩

/-- The facts query of a member with overflowing counts fails, while the bulk query returns the
member, because its clause does not read the counts. -/
theorem player_and_bulk_overflow :
    RegexAgrees Sample.letterEngines ∧
      (∀ user ∈ (gradeWorld overflowStats rfl).tables.osuUsers.rows, user.discordId ∈ ["1"] →
        Past (gradeWorld overflowStats rfl).now user) ∧
      verdict Sample.letterEngines (gradeWorld overflowStats rfl) "1" (supporterColumn .osu false) =
        .error (.database .integerOutOfRange) ∧
      uncapped Sample.letterEngines (gradeWorld overflowStats rfl) ["1"]
        (RuleTree.ofColumn (supporterColumn .osu false).value) = .ok ["1"] ∧
      ¬ PathsAgree Sample.letterEngines (gradeWorld overflowStats rfl) ["1"] .osu := by
  refine ⟨letterEngines_agree, gradeWorld_past _ rfl, ?_, ?_, ?_⟩
  · rfl
  · rfl
  · intro agree
    have legible := readable_of_agree agree (List.mem_singleton_self (Sample.user "1" 7)) (by decide)
    exact absurd (legible.ssCount overflowStats rfl) (by decide)

/-- The two jobs agree on the sample member. -/
theorem player_and_bulk_agree_sample :
    PathsAgree Sample.letterEngines (gradeWorld (Sample.stats 7 .osu) rfl) ["1"] .osu := by
  refine (player_and_bulk_agree Sample.letterEngines letterEngines_agree _ ["1"] .osu
    (gradeWorld_past _ rfl)).1.mpr ?_
  intro user stored _
  rw [show user = Sample.user "1" 7 from List.mem_singleton.mp stored]
  refine ⟨by decide, ?_, ?_, ?_, ?_⟩
  · simp [Sample.user]
  · simp [Sample.user]
  · intro statistics present
    rw [show statistics = Sample.stats 7 .osu from (Option.some.inj present).symm]
    decide
  · intro statistics present
    rw [show statistics = Sample.stats 7 .osu from (Option.some.inj present).symm]
    decide

end Overflow

end OsuPlayerRole.Sync
