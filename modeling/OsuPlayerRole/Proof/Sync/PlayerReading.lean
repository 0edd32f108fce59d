/-
This file shows what the reads of a player job decide.
-/
import OsuPlayerRole.Library.Checked
import OsuPlayerRole.Proof.Rule.RuleAgreement
import OsuPlayerRole.Proof.Sync.Exchange

namespace OsuPlayerRole.Sync

open Resumption Program

section Verdict

variable (engines : Engines) (discordId : DiscordId) (world : World)

/-- The facts of the player satisfy the rule at this moment. -/
def satisfies (tree : RuleTree) : Bool :=
  if tree.grantOnAnyPlayer then (world.tables.osuUsers.find discordId).isSome
  else if tree.groups.isEmpty then false
  else match selectFacts world.tables discordId tree.defaultMode with
    | .ok (some row) => ConditionEval.evaluate engines world.now tree row.facts
    | _ => false

def meets (row : RoleLink) : Bool :=
  satisfies engines discordId world (RuleTree.ofColumn row.ruleTree.value)

/-- The links of the guilds that the gateway reports. -/
def linksOf : List RoleLink :=
  world.tables.roleLinks.rows.filter fun row => (world.guildsOf discordId).contains row.guildId

/-- The reads of the verdict succeed. -/
def Legible (row : RoleLink) : Prop :=
  verdict engines world discordId row.ruleTree = .ok (meets engines discordId world row)

/-- The action for a link whose assignment differs from the verdict. -/
def correctionOf (row : RoleLink) : Bool → Bool → Option Action
  | true, false => some (.add row.link row.apiToken)
  | false, true => some (.remove row.link row.apiToken)
  | _, _ => none

/-- The action that brings the mirror of a link to the verdict. -/
def correction (row : RoleLink) : Option Action :=
  correctionOf row (meets engines discordId world row)
    (decide (discordId ∈ world.tables.roleAssignments row.link))

def wanted : List Action := (linksOf discordId world).filterMap (correction engines discordId world)

def World.clocked (now : Timestamp) : World := { world with now }

/-- The verdicts are the same at the other moment. -/
def Steady (now : Timestamp) : Prop :=
  ∀ row ∈ linksOf discordId world,
    meets engines discordId (world.clocked now) row = meets engines discordId world row

/-- These worlds differ in the clock alone, and their verdicts agree. -/
def variants : Set World := {other | ∃ now, Steady engines discordId world now ∧ other = world.clocked now}

end Verdict

/-- The links and the guilds do not change. -/
structure Fixed (base world : World) : Prop where
  roleLinks : world.tables.roleLinks = base.tables.roleLinks
  guildsOf : world.guildsOf = base.guildsOf

/-- A job first reads the guilds and the links. It enters with the question whether the player is
linked, and then it reads about the player. -/
def SyncOp.entered? : SyncOp → Option Bool
  | .fetchUserGuildIds _ => some false
  | .selectRoleLinks _ => some false
  | .existsOsuUser _ => some false
  | .selectAssignmentsOf _ => some true
  | .selectFacts _ _ => some true
  | .utcNow => some true
  | _ => none

def SyncOp.enters : SyncOp → Bool
  | .existsOsuUser _ => true
  | _ => false

section Reads

variable (engines : Engines) (discordId : DiscordId) (base : World) (worlds : Set World)

/-- The status says whether the job has entered. Every answer is the one of some of these worlds. -/
def reads : Protocol SyncOp SyncOp.Value AppError Bool where
  allowed entered operation := operation.entered? = some entered ∧
    (operation.enters = true → linksOf discordId base ≠ [])
  possible _ operation answer :=
    (∃ world ∈ worlds, (perform engines world operation).1 = answer) ∧ ∃ value, answer = .ok value
  next entered operation _ := entered || operation.enters

/-- All these worlds are the given one at several moments. -/
structure Frozen (world : World) : Prop where
  fixed : Fixed base world
  within : worlds ⊆ variants engines discordId world

/-- The job plans at most one action for each link. In a frozen world these are the wanted ones, and
every verdict has been read. -/
def Finishes (answer : Except AppError (List (SyncProgram Unit))) (entered : Bool) : Prop :=
  ∃ actions, answer = .ok (actions.map (performAction discordId)) ∧
    (actions.map Action.link).Sublist ((linksOf discordId base).map RoleLink.link) ∧
    (∀ world, Frozen engines discordId base worlds world →
      actions = wanted engines discordId world ∧
        ∀ row ∈ linksOf discordId base, Legible engines discordId world row) ∧
    (entered = false → linksOf discordId base = [])

/-- What a frozen world holds about the player when the job enters. -/
def Known (isLinked : Bool) (existing : Finset Link) : Prop :=
  ∀ world, Frozen engines discordId base worlds world →
    isLinked = (world.tables.osuUsers.find discordId).isSome ∧
      existing = assignmentsOf world.tables discordId

/-- A plan has at most one action for each of the rows, and in a frozen world the corrections. -/
def Plans (rows : List RoleLink) (answer : Except AppError (List Action)) (entered : Bool) : Prop :=
  entered = true ∧ ∃ actions, answer = .ok actions ∧
    (actions.map Action.link).Sublist (rows.map RoleLink.link) ∧
    ∀ world, Frozen engines discordId base worlds world →
      actions = rows.filterMap (correction engines discordId world) ∧
        ∀ row ∈ rows, Legible engines discordId world row

variable {engines discordId base worlds}

/-- The surrounding is one of its variants. -/
theorem variants_self {world : World} : world ∈ variants engines discordId world :=
  ⟨world.now, fun _ _ => rfl, rfl⟩

/-- The operation that marks a stage changes nothing. -/
theorem part_of_entered {operation : SyncOp} {stage : Bool} (named : operation.entered? = some stage) :
    operation.part = .other := by
  cases operation <;> first | rfl | cases named

/-- A fixed surrounding has the same links of the player. -/
theorem Fixed.linksOf_eq {world : World} (fixed : Fixed base world) :
    linksOf discordId world = linksOf discordId base := by
  unfold linksOf
  rw [fixed.roleLinks, fixed.guildsOf]

/-- A frozen variant has the same tables. -/
theorem Frozen.tables {world other : World} (frozen : Frozen engines discordId base worlds world)
    (inside : other ∈ worlds) : other.tables = world.tables := by
  obtain ⟨now, _, rfl⟩ := frozen.within inside
  rfl

/-- Each of the worlds gives the verdict of the frozen one. -/
theorem Frozen.meets {world other : World} (frozen : Frozen engines discordId base worlds world)
    (inside : other ∈ worlds) {row : RoleLink} (stored : row ∈ linksOf discordId base) :
    meets engines discordId other row = Sync.meets engines discordId world row := by
  obtain ⟨now, steady, rfl⟩ := frozen.within inside
  rw [← frozen.fixed.linksOf_eq] at stored
  exact steady row stored

/-- The rule of one read. It is answered, and by one of the worlds. -/
theorem follows_reading {A : Type} {operation : SyncOp} {entered : Bool}
    {rest : operation.Value → SyncProgram A} {post : Except AppError A → Bool → Prop}
    (named : operation.entered? = some entered)
    (present : operation.enters = true → linksOf discordId base ≠ [])
    (continued : ∀ value, (∃ world ∈ worlds, (perform engines world operation).1 = .ok value) →
      Follows (reads engines discordId base worlds) post (entered || operation.enters) (rest value)) :
    Follows (reads engines discordId base worlds) post entered (ask operation >>= rest) := by
  refine follows_ask_bind ⟨named, present⟩ (fun value possible => continued value possible.1) ?_
  rintro error ⟨_, value, impossible⟩
  cases impossible

/-- Facts that were selected can be read. -/
theorem legible_of_selected {world : World} {row : RoleLink} {found : Option FactsRow}
    (selected : selectFacts world.tables discordId (RuleTree.ofColumn row.ruleTree.value).defaultMode =
      .ok found) : Legible engines discordId world row := by
  rw [Legible, verdict_eq row.ruleTree rfl, selected, meets, satisfies, selected]
  split
  · rfl
  · split
    · rfl
    · cases found <;> rfl

/-- The facts are read from the accounts and the statistics alone. -/
theorem selectFacts_congr {tables other : Tables} (users : other.osuUsers = tables.osuUsers)
    (stats : other.osuStats = tables.osuStats) (mode : Mode) :
    selectFacts other discordId mode = selectFacts tables discordId mode := by
  unfold selectFacts Tables.statsOf
  rw [users, stats]

/-- The reads of a verdict succeed with the same facts at every moment alike. -/
theorem Legible.of_facts {world other : World} {row : RoleLink}
    (users : other.tables.osuUsers = world.tables.osuUsers)
    (stats : other.tables.osuStats = world.tables.osuStats)
    (legible : Legible engines discordId world row) : Legible engines discordId other row := by
  have same := @selectFacts_congr discordId _ _ users stats (RuleTree.ofColumn row.ruleTree.value).defaultMode
  cases selected : selectFacts world.tables discordId (RuleTree.ofColumn row.ruleTree.value).defaultMode with
  | ok found => exact legible_of_selected (same.trans selected)
  | error error =>
      rw [Legible, verdict_eq row.ruleTree rfl, selected, meets, satisfies] at legible
      rw [Legible, verdict_eq row.ruleTree rfl, same, selected, meets, satisfies]
      split
      · rfl
      · next ungranted =>
          split
          · rfl
          · next present =>
              rw [if_neg ungranted, if_neg present] at legible
              cases legible

/-- The verdict of a frozen world is what the reads of one link find. -/
theorem qualifies_reads {isLinked : Bool} {row : RoleLink} (stored : row ∈ linksOf discordId base)
    (linked : ∀ world, Frozen engines discordId base worlds world →
      isLinked = (world.tables.osuUsers.find discordId).isSome) :
    Follows (reads engines discordId base worlds)
      (fun answer entered => entered = true ∧ ∃ qualified, answer = .ok qualified ∧
        ∀ world, Frozen engines discordId base worlds world →
          qualified = meets engines discordId world row ∧ Legible engines discordId world row) true
      (qualifies engines discordId isLinked (RuleTree.ofColumn row.ruleTree.value)) := by
  unfold qualifies
  split
  · next granted =>
      refine ⟨rfl, isLinked, rfl, fun world frozen => ⟨?_, ?_⟩⟩
      · rw [meets, satisfies, if_pos granted]
        exact linked world frozen
      · rw [Legible, verdict_eq row.ruleTree rfl, if_pos granted, meets, satisfies, if_pos granted]
  · next ungranted =>
      split
      · next empty =>
          refine ⟨rfl, false, rfl, fun world _ => ⟨?_, ?_⟩⟩
          · rw [meets, satisfies, if_neg ungranted, if_pos empty]
          · rw [Legible, verdict_eq row.ruleTree rfl, if_neg ungranted, if_pos empty, meets, satisfies,
              if_neg ungranted, if_pos empty]
      · next present =>
          refine follows_reading rfl (by intro impossible; cases impossible) fun found answers => ?_
          obtain ⟨read, readIn, answer⟩ := answers
          have selected := answered_ok answer
          cases found with
          | none =>
              refine ⟨rfl, false, rfl, fun world frozen => ?_⟩
              rw [frozen.tables readIn] at selected
              refine ⟨?_, legible_of_selected selected⟩
              rw [meets, satisfies, if_neg ungranted, if_neg present, selected]
          | some facts =>
              refine follows_reading rfl (by intro impossible; cases impossible) fun now answers => ?_
              obtain ⟨moment, momentIn, clock⟩ := answers
              obtain rfl : moment.now = now := Except.ok.inj clock
              refine ⟨rfl, _, rfl, fun world frozen => ?_⟩
              rw [frozen.tables readIn] at selected
              refine ⟨?_, legible_of_selected selected⟩
              rw [← frozen.meets momentIn stored, meets, satisfies, if_neg ungranted, if_neg present,
                frozen.tables momentIn, selected]

/-- A link is among the assignments exactly when its mirror lists the player. -/
theorem mem_assignmentsOf {tables : Tables} {row : RoleLink} (stored : row ∈ tables.roleLinks.rows) :
    row.link ∈ assignmentsOf tables discordId ↔ discordId ∈ tables.roleAssignments row.link := by
  rw [assignmentsOf, List.mem_toFinset, List.mem_filter, decide_eq_true_iff]
  exact and_iff_right (List.mem_map_of_mem stored)

/-- A row adds its correction to the plan of the others. -/
theorem plans_cons {row : RoleLink} {rest : List RoleLink} {isLinked qualified : Bool}
    {existing : Finset Link} {actions : List Action}
    (known : Known engines discordId base worlds isLinked existing)
    (stored : row ∈ linksOf discordId base)
    (qualifies : ∀ world, Frozen engines discordId base worlds world →
      qualified = meets engines discordId world row ∧ Legible engines discordId world row)
    (plans : Plans engines discordId base worlds rest (.ok actions) true) :
    Plans engines discordId base worlds (row :: rest)
      (.ok ((correctionOf row qualified (decide (row.link ∈ existing))).toList ++ actions)) true := by
  obtain ⟨_, _, same, ordered, later⟩ := plans
  cases same
  refine ⟨rfl, _, rfl, ?_, fun world frozen => ?_⟩
  · cases qualified <;> cases decide (row.link ∈ existing) <;>
      first | exact ordered.cons _ | exact ordered.cons_cons _
  · have here : correction engines discordId world row =
        correctionOf row qualified (decide (row.link ∈ existing)) := by
      rw [← frozen.fixed.linksOf_eq] at stored
      have member := @mem_assignmentsOf discordId world.tables row (List.mem_filter.mp stored).1
      rw [correction, ← (qualifies world frozen).1, (known world frozen).2, decide_eq_decide.mpr member]
    obtain ⟨corrected, legible⟩ := later world frozen
    refine ⟨?_, List.forall_mem_cons.mpr ⟨(qualifies world frozen).2, legible⟩⟩
    rw [List.filterMap_cons, here, ← corrected]
    cases correctionOf row qualified (decide (row.link ∈ existing)) <;> rfl

/-- The plan follows the verdicts of the moments at which it was read. -/
theorem planActions_reads {isLinked : Bool} {existing : Finset Link} {rows : List RoleLink}
    (known : Known engines discordId base worlds isLinked existing)
    (stored : ∀ row ∈ rows, row ∈ linksOf discordId base) :
    Follows (reads engines discordId base worlds) (Plans engines discordId base worlds rows) true
      (planActions engines discordId isLinked existing (rows.map linkRow)) := by
  induction rows with
  | nil =>
      refine ⟨rfl, [], rfl, List.Sublist.slnil, fun _ _ => ⟨rfl, fun row inside => ?_⟩⟩
      exact absurd inside List.not_mem_nil
  | cons row rest ih =>
      have here : row ∈ linksOf discordId base := stored row List.mem_cons_self
      have later := ih fun other inside => stored other (List.mem_cons_of_mem row inside)
      refine follows_bind (qualifies_reads here fun world frozen => (known world frozen).1) ?_ ?_
      · rintro qualified entered ⟨rfl, _, same, qualifies⟩
        cases same
        refine follows_bind later ?_ ?_
        · rintro actions entered ⟨rfl, plans⟩
          have whole := plans_cons known here qualifies ⟨rfl, plans⟩
          change Follows _ _ _ (match qualified, decide (row.link ∈ existing) with
            | true, false => _
            | false, true => _
            | _, _ => _)
          revert whole
          cases qualified <;> cases decide (row.link ∈ existing) <;> exact id
        · rintro error entered ⟨_, _, impossible, _⟩
          cases impossible
      · rintro error entered ⟨_, _, impossible, _⟩
        cases impossible

/-- The query answers with the stored links of the guilds. -/
theorem selectRoleLinks_ok {tables : Tables} {guildIds : List GuildId} {rows : List LinkRow}
    (selected : selectRoleLinks tables guildIds = .ok rows) :
    rows = (tables.roleLinks.rows.filter fun row => guildIds.contains row.guildId).map linkRow := by
  obtain ⟨_, _, returned⟩ := Checked.bind_ok selected
  cases returned
  rfl

/-- A job that has not entered ends only where there is nothing to do. -/
theorem finishes_nil {entered : Bool} (none : linksOf discordId base = []) :
    Finishes engines discordId base worlds (.ok []) entered := by
  refine ⟨[], rfl, List.nil_sublist _, fun world frozen => ?_, fun _ => none⟩
  rw [wanted, frozen.fixed.linksOf_eq, none]
  exact ⟨rfl, fun row inside => absurd inside List.not_mem_nil⟩

/-- The reads decide the plan, in any worlds with these links and guilds. -/
theorem syncForPlayer_reads (within : ∀ world ∈ worlds, Fixed base world) :
    Follows (reads engines discordId base worlds)
      (fun answer entered => ∃ actions, answer = .ok actions ∧
        Finishes engines discordId base worlds (.ok (actions.map (performAction discordId))) entered)
      false (syncForPlayer engines discordId) := by
  refine follows_reading rfl (by intro impossible; cases impossible) fun guildIds answers => ?_
  obtain ⟨gateway, gatewayIn, reported⟩ := answers
  obtain rfl : gateway.guildsOf discordId = guildIds := Except.ok.inj reported
  rw [(within gateway gatewayIn).guildsOf]
  split
  · next nowhere =>
      have none : linksOf discordId base = [] := by
        rw [linksOf, List.isEmpty_iff.mp nowhere]
        exact List.filter_eq_nil_iff.mpr fun _ _ impossible => by cases impossible
      exact ⟨[], rfl, finishes_nil none⟩
  · refine follows_reading rfl (by intro impossible; cases impossible) fun rows answers => ?_
    obtain ⟨read, readIn, answer⟩ := answers
    have listed := selectRoleLinks_ok (answered_ok answer)
    rw [(within read readIn).roleLinks] at listed
    change rows = (linksOf discordId base).map linkRow at listed
    split
    · next empty =>
        rw [listed, List.isEmpty_iff, List.map_eq_nil_iff] at empty
        exact ⟨[], rfl, finishes_nil empty⟩
    · next several =>
        have present : linksOf discordId base ≠ [] := by
          rw [listed, List.isEmpty_iff, List.map_eq_nil_iff] at several
          exact several
        refine follows_reading rfl (fun _ => present) fun isLinked answers => ?_
        obtain ⟨entry, entryIn, linked⟩ := answers
        obtain rfl : (entry.tables.osuUsers.find discordId).isSome = isLinked := Except.ok.inj linked
        refine follows_reading rfl (by intro impossible; cases impossible) fun existing answers => ?_
        obtain ⟨mirror, mirrorIn, assigned⟩ := answers
        obtain rfl : assignmentsOf mirror.tables discordId = existing := Except.ok.inj assigned
        have known : Known engines discordId base worlds
            (entry.tables.osuUsers.find discordId).isSome (assignmentsOf mirror.tables discordId) := by
          intro world frozen
          rw [frozen.tables entryIn, frozen.tables mirrorIn]
          exact ⟨rfl, rfl⟩
        rw [listed]
        refine follows_mono ?_ (planActions_reads known fun row inside => inside)
        rintro answer entered ⟨rfl, actions, rfl, ordered, corrected⟩
        refine ⟨actions, rfl, actions, rfl, ordered, fun world frozen => ?_, fun impossible => ?_⟩
        · rw [wanted, frozen.fixed.linksOf_eq]
          exact corrected world frozen
        · cases impossible
/-- The job plans what its reads decide, in any worlds with these links and guilds. -/
theorem playerSync_reads (within : ∀ world ∈ worlds, Fixed base world) :
    Follows (reads engines discordId base worlds) (Finishes engines discordId base worlds) false
      ((Dispatch.playerSync discordId).program engines) := by
  refine follows_bind (syncForPlayer_reads within) ?_ ?_
  · rintro actions entered ⟨_, same, finishes⟩
    cases same
    exact finishes
  · rintro error entered ⟨_, impossible, _⟩
    cases impossible

end Reads

end OsuPlayerRole.Sync
