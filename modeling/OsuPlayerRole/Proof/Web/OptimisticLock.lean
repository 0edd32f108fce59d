/-
This file shows when every save replaces the rule that its client holds.
-/
import Mathlib.Data.Int.ConditionallyCompleteOrder
import Mathlib.Order.ConditionallyCompleteLattice.Basic
import OsuPlayerRole.Construction.Routes.Editing
import OsuPlayerRole.Library.Versioned
import OsuPlayerRole.Proof.Rule.AcceptedTree
import OsuPlayerRole.Proof.Sample
import OsuPlayerRole.Proof.Web.StatementFrame

namespace OsuPlayerRole.Editing

open Web Resumption Program KeyedTable Versioned

section Rules

variable {state : AppState} {outside : Outside} {tables after : Tables} {link other : Link}
  {tree : Json.Value} {expected : Int4}

/-- The rule of a link is read from its row. -/
theorem ruleOf_congr (same : after.roleLinks = tables.roleLinks) :
    ruleOf after link = ruleOf tables link := by
  unfold ruleOf
  rw [same]

/-- The update replaces the rule of the expected version, or it changes nothing. -/
inductive Updated (tables : Tables) (link : Link) (tree : Json.Value) (expected : Int4) :
    Except AppError Nat × Tables → Prop where
  | failed (error : AppError) : Updated tables link tree expected (.error error, tables)
  | unmatched (other : ∀ rule ∈ ruleOf tables link, rule.2 ≠ expected) :
      Updated tables link tree expected (.ok 0, tables)
  | replaced (old : RuleTree) (version : Int4) (after : Tables)
      (matched : ruleOf tables link = some (old, expected)) (later : expected < version)
      (stored : ruleOf after link = some (RuleTree.ofColumn tree, version))
      (frame : ∀ other, other ≠ link → ruleOf after other = ruleOf tables other) :
      Updated tables link tree expected (.ok 1, after)

/-- A version that fits is larger than the one before. -/
theorem ofInt_succ {version : Int4} (fits : Int4.ofInt (expected + 1) = .ok version) :
    expected < version := by
  unfold Int4.ofInt at fits
  split at fits
  · cases fits
    exact Subtype.mk_lt_mk.mpr (Int.lt_succ expected.val)
  · cases fits

/-- A save changes the row of its link alone. -/
theorem find_bumped (tables : Tables) (stored : Json.Jsonb) (now : Timestamp) (version : Int4)
    (link other : Link) :
    (tables.updateRoleLink (Tables.bumped stored now version link)
        (Tables.bumped_link stored now version link)).roleLinks.find other =
      (tables.roleLinks.find other).map (Tables.bumped stored now version link) :=
  Table.find_update _ _ (Tables.bumped_link stored now version link) _

/-- The statement saves exactly where the version is the expected one. -/
theorem updateRuleTree_updated (now : Timestamp) (tables : Tables) (link : Link) (tree : Json.Value)
    (expected : Int4) :
    Updated tables link tree expected
      (returning tables (tables.updateRuleTree now tree link expected)) := by
  cases written : tables.updateRuleTree now tree link expected with
  | error error => exact .failed _
  | ok result =>
      obtain ⟨stored, encoded, remaining⟩ := Checked.bind_ok written
      obtain ⟨_, _, remaining⟩ := Checked.bind_ok remaining
      have value : stored.value = tree := by
        unfold RuleSql.jsonb at encoded
        split at encoded
        · cases encoded
          rfl
        · cases encoded
      cases found : tables.roleLinks.find link with
      | none =>
          rw [found] at remaining
          cases remaining
          refine .unmatched fun rule present => ?_
          rw [ruleOf, found] at present
          cases present
      | some row =>
          rw [found] at remaining
          dsimp only at remaining
          split at remaining
          · next same =>
              obtain ⟨version, fits, remaining⟩ := Checked.bind_ok remaining
              cases remaining
              have keyed := (Table.find_eq_some.mp found).2
              refine .replaced (RuleTree.ofColumn row.ruleTree.value) version _ ?_
                (ofInt_succ (same ▸ fits)) ?_ fun other different => ?_
              · rw [ruleOf, found, Option.map_some, same]
              · rw [ruleOf, find_bumped, found, Option.map_some, Option.map_some, Tables.bumped,
                  if_pos keyed, ← value]
              · unfold ruleOf
                rw [find_bumped]
                cases kept : tables.roleLinks.find other with
                | none => rfl
                | some old =>
                    have own := (Table.find_eq_some.mp kept).2
                    rw [Option.map_some, Tables.bumped, if_neg]
                    exact fun same => different (own.symm.trans same)
          · next different =>
              cases remaining
              refine .unmatched fun rule present => ?_
              rw [ruleOf, found] at present
              cases present
              exact different

/-- The answered statement saves exactly where the version is the expected one. -/
theorem answer_updated (state : AppState) (outside : Outside) (tables : Tables) (link : Link)
    (tree : Json.Value) (expected : Int4) :
    Updated tables link tree expected
      (answer state outside tables (.updateRuleTree tree link expected)) := by
  unfold answer
  split
  · exact .failed _
  · exact updateRuleTree_updated outside.now tables link tree expected

end Rules

section Requests

/-- What a request has seen and done so far. -/
inductive Stage where
  | unread
  | loaded (rule : RuleTree × Int4)
  | written (tree : RuleTree)
  | saved (rule : RuleTree × Int4)
  | unmatched
  | stale
  | closed

def Stage.after : Stage → (operation : WebOp) → Except AppError operation.Value → Stage
  | .unread, .selectConfig _, .ok (some (tree, version)) => .loaded (RuleTree.ofColumn tree, version)
  | .unread, .updateRuleTree tree _ _, .ok affected =>
      if affected = 0 then .unmatched else .written (RuleTree.ofColumn tree)
  | .written tree, .selectNewVersion _, .ok version => .saved (tree, version)
  | .unmatched, .selectExistingVersion _, .ok (some _) => .stale
  | .unmatched, .selectExistingVersion _, _ => .closed
  | stage, _, _ => stage

/-- A request of the link sends at most this tree for this version. -/
inductive Admits (link : Link) (sent : Option (RuleTree × Int4)) : Stage → WebOp → Prop where
  | utcNow : Admits link sent .unread .utcNow
  | guildPermission (cookie : String) (guildId : GuildId) :
      Admits link sent .unread (.guildPermission cookie guildId)
  | selectConfig : Admits link sent .unread (.selectConfig link)
  | updateRuleTree (tree : RuleTree) (expected : Int4) (same : sent = some (tree, expected))
      (stored : RuleTree.ofColumn tree.toValue = tree) :
      Admits link sent .unread (.updateRuleTree tree.toValue link expected)
  | selectViewPermission (rule : RuleTree × Int4) (guildId : GuildId) :
      Admits link sent (.loaded rule) (.selectViewPermission guildId)
  | selectNewVersion (tree : RuleTree) : Admits link sent (.written tree) (.selectNewVersion link)
  | enqueueConfigSync (rule : RuleTree × Int4) (other : Link) :
      Admits link sent (.saved rule) (.enqueueConfigSync other)
  | selectExistingVersion (sends : sent.isSome) :
      Admits link sent .unmatched (.selectExistingVersion link)

def editing (link : Link) (sent : Option (RuleTree × Int4)) :
    Protocol WebOp WebOp.Value AppError Stage where
  allowed := Admits link sent
  possible _ _ _ := True
  next := Stage.after

/-- A load that succeeds returns the rule that it has read. -/
def Loads (result : Except AppError Admin.RoleConfigData) (stage : Stage) : Prop :=
  ∀ data, result = .ok data → stage = .loaded (data.config, data.ruleTreeVersion)

/-- A save that succeeds has written its tree, and it returns the version that it has read again. A
save that no row matched looks for the link, and it ends as stale when there is one. -/
structure Saves (sent : Option (RuleTree × Int4)) (result : Except AppError Int4) (stage : Stage) :
    Prop where
  saved : ∀ version, result = .ok version →
    ∃ tree expected, sent = some (tree, expected) ∧ stage = .saved (tree, version)
  stale : stage = .stale → result = .error .staleVersion
  looks : stage ≠ .unmatched

variable {state : AppState} {headers : Headers} {link : Link} {sent : Option (RuleTree × Int4)}

/-- The checks of a request read no rule. -/
theorem checks_follow {A : Type} {program : WebProgram A}
    (only : ∀ {allowed : WebOp → Prop}, Checks allowed → program.Only allowed) :
    Follows (editing link sent) (fun _ last => last = .unread) .unread program := by
  have checks : Checks fun operation => Admits link sent .unread operation ∧
      ∀ answer, Stage.after .unread operation answer = .unread :=
    ⟨⟨.utcNow, fun _ => rfl⟩, fun _ _ => ⟨.guildPermission _ _, fun _ => rfl⟩⟩
  exact follows_of_only (fun _ admitted => admitted) (only checks)

/-- The editor loads the rule with its version. -/
theorem roleConfigData_follows (state : AppState) (headers : Headers) (link : Link) :
    Follows (editing link none) Loads .unread (Admin.roleConfigData state headers link.1 link.2) := by
  have failed : ∀ {error stage}, Loads (.error error) stage := fun _ impossible => by cases impossible
  refine follows_bind (checks_follow only_requireRoleConfigAccess) (fun access stage same => ?_)
    fun _ _ _ => failed
  subst same
  refine ⟨.selectConfig, fun answer _ => ?_⟩
  cases answer with
  | error error => exact failed
  | ok found =>
      cases found with
      | none => exact failed
      | some row =>
          refine ⟨.selectViewPermission _ _, fun permission _ => ?_⟩
          cases permission with
          | error error => exact failed
          | ok stored =>
              intro data same
              cases same
              rfl

/-- An error saves nothing. -/
theorem saves_error {error : AppError} {stage : Stage} (other : stage ≠ .stale)
    (looks : stage ≠ .unmatched) : Saves sent (.error error) stage := by
  refine ⟨fun version impossible => ?_, fun same => absurd same other, looks⟩
  cases impossible

/-- A stale version is reported as a conflict. -/
theorem saves_stale : Saves sent (.error .staleVersion) .stale := by
  refine ⟨fun version impossible => ?_, fun _ => rfl, Stage.noConfusion⟩
  cases impossible

/-- The update is compared with the version, and the tree is read back as it was sent. -/
theorem storeTree_follows {tree : RuleTree} {expected : Int4}
    (stored : RuleTree.ofColumn tree.toValue = tree) :
    Follows (editing link (some (tree, expected))) (Saves (some (tree, expected))) .unread
      (Admin.storeTree link.1 link.2 tree expected) := by
  refine ⟨.updateRuleTree tree expected rfl stored, fun answer _ => ?_⟩
  cases answer with
  | error error => exact saves_error Stage.noConfusion Stage.noConfusion
  | ok affected =>
      by_cases none_matched : affected = 0
      · subst none_matched
        refine ⟨.selectExistingVersion rfl, fun existing _ => ?_⟩
        cases existing with
        | error error => exact saves_error Stage.noConfusion Stage.noConfusion
        | ok found =>
            cases found with
            | none => exact saves_error Stage.noConfusion Stage.noConfusion
            | some version => exact saves_stale
      · have written : Stage.after .unread (.updateRuleTree tree.toValue link expected) (.ok affected) =
            .written tree := by
          rw [Stage.after, if_neg none_matched, stored]
        change Follows _ _ (Stage.after .unread (.updateRuleTree tree.toValue link expected)
          (.ok affected)) (if affected = 0 then _ else _)
        rw [written, if_neg none_matched]
        refine ⟨.selectNewVersion tree, fun reread _ => ?_⟩
        cases reread with
        | error error => exact saves_error Stage.noConfusion Stage.noConfusion
        | ok version =>
            refine ⟨.enqueueConfigSync _ _, fun queued _ =>
              ⟨fun other same => ?_, Stage.noConfusion, Stage.noConfusion⟩⟩
            cases same
            exact ⟨tree, expected, rfl, rfl⟩

/-- The tree and the version of a save, when its tree is accepted. -/
def sentBy (tree : Option RuleTree) (version : Int4) : Option (RuleTree × Int4) :=
  tree.map fun accepted => (accepted, version)

/-- A save goes through its stages in order. -/
theorem roleConfigSave_follows (state : AppState) (headers : Headers) (link : Link)
    (body : Admin.RoleConfigSaveBody) :
    let sent := sentBy (RuleValidator.parseRuleTree state.engines body.tree).toOption
      body.ruleTreeVersion
    Follows (editing link sent) (Saves sent) .unread
      (Admin.roleConfigSave state headers link.1 link.2 body) := by
  intro sent
  have unread : ∀ error stage, stage = Stage.unread → Saves sent (.error error) stage := by
    rintro error stage rfl
    exact saves_error Stage.noConfusion Stage.noConfusion
  refine follows_bind (checks_follow fun _ => only_check _) (fun _ stage same => ?_) unread
  subst same
  refine follows_bind (checks_follow only_requireRoleConfigAccess) (fun access stage same => ?_) unread
  subst same
  split
  · exact saves_error Stage.noConfusion Stage.noConfusion
  · cases parsed : RuleValidator.parseRuleTree state.engines body.tree with
    | error error => exact saves_error Stage.noConfusion Stage.noConfusion
    | ok tree =>
        have accepted : sent = some (tree, body.ruleTreeVersion) := by
          change sentBy (RuleValidator.parseRuleTree state.engines body.tree).toOption _ = _
          rw [parsed]
          rfl
        rw [accepted]
        exact storeTree_follows
          (RuleValidator.ofColumn_toValue (RuleValidator.parseRuleTree_shaped parsed))

end Requests

section Agreement

variable {tables after : Tables} {link : Link} {rule : RuleTree × Int4} {stage : Stage}

/-- The link has this rule, or one with a later version. -/
def HeldSince (tables : Tables) (link : Link) (rule : RuleTree × Int4) : Prop :=
  ∃ current, ruleOf tables link = some current ∧ Since rule current

/-- Every rule stays, or a later version replaces it. -/
def Moves (before after : Tables) : Prop :=
  ∀ link, ruleOf after link = ruleOf before link ∨
    ∃ old new, ruleOf before link = some old ∧ ruleOf after link = some new ∧ old.2 < new.2

/-- A rule that was held stays known when the version moves on. -/
theorem HeldSince.moves (since : HeldSince tables link rule) (moves : Moves tables after) :
    HeldSince after link rule := by
  obtain ⟨current, found, later⟩ := since
  obtain same | ⟨old, new, old_found, new_found, newer⟩ := moves link
  · exact ⟨current, same.trans found, later⟩
  · obtain rfl := Option.some.inj (found.symm.trans old_found)
    exact ⟨new, new_found, later.trans (.of_lt newer)⟩

/-- What a request has seen is in the tables, or an older version of it. -/
def Stage.Agrees (tables : Tables) (link : Link) : Stage → Prop
  | .loaded rule => HeldSince tables link rule
  | .written tree => ∃ version, ruleOf tables link = some (tree, version)
  | .saved rule => HeldSince tables link rule
  | _ => True

/-- The update of the request has replaced a rule. -/
def Stage.wrote : Stage → Bool
  | .written _ => true
  | .saved _ => true
  | _ => false

variable {state : AppState} {outside : Outside} {sent : Option (RuleTree × Int4)} {operation : WebOp}

/-- The operations of a request write no links, except for its update. -/
theorem Admits.keeps (admits : Admits link sent stage operation)
    (other : ∀ tree expected, operation ≠ .updateRuleTree tree link expected) (target : Link) :
    ruleOf (answer state outside tables operation).2 target = ruleOf tables target := by
  refine ruleOf_congr (answer_kept state outside tables ?_).roleLinks
  cases admits with
  | updateRuleTree tree expected same stored => exact absurd rfl (other _ _)
  | _ => exact not_false

/-- An admitted operation never lowers a version. -/
theorem Admits.moves (admits : Admits link sent stage operation) :
    Moves tables (answer state outside tables operation).2 := by
  intro target
  by_cases update : ∃ tree expected, operation = .updateRuleTree tree link expected
  · obtain ⟨tree, expected, rfl⟩ := update
    have updated := answer_updated state outside tables link tree expected
    generalize answer state outside tables (.updateRuleTree tree link expected) = answered at updated
    cases updated with
    | failed error => exact Or.inl rfl
    | unmatched other => exact Or.inl rfl
    | replaced old version after matched later stored frame =>
        by_cases same : target = link
        · subst same
          exact Or.inr ⟨_, _, matched, stored, later⟩
        · exact Or.inl (frame target same)
  · exact Or.inl (admits.keeps (fun tree expected same => update ⟨tree, expected, same⟩) target)

/-- A column of the link is read as it is stored. -/
theorem answer_selectLink {A : Type} {column : RoleLink → A} {value : Option A}
    (answered : (reading tables (selectLink tables link column)).1 = .ok value) :
    value = (tables.roleLinks.find link).map column :=
  selectLink_ok (Checked.mapError_ok.mp answered)

/-- The editor reads the rule with its version. -/
theorem selectConfig_ok {found : Option (Json.Value × Int4)}
    (answered : (answer state outside tables (.selectConfig link)).1 = .ok found) :
    (found.map fun row => (RuleTree.ofColumn row.1, row.2)) = ruleOf tables link := by
  unfold answer at answered
  split at answered
  · cases answered
  · rw [answer_selectLink answered, ruleOf, Option.map_map]
    rfl

/-- The query finds the version of the link, or no row. -/
theorem selectExistingVersion_ok {found : Option Int4}
    (answered : (answer state outside tables (.selectExistingVersion link)).1 = .ok found) :
    found = (ruleOf tables link).map Prod.snd := by
  unfold answer at answered
  split at answered
  · cases answered
  · rw [answer_selectLink answered, ruleOf, Option.map_map]
    rfl

/-- The query reads the version of the link. -/
theorem selectNewVersion_ok {version : Int4}
    (answered : (answer state outside tables (.selectNewVersion link)).1 = .ok version) :
    (ruleOf tables link).map Prod.snd = some version := by
  unfold answer at answered
  split at answered
  · cases answered
  · obtain ⟨found, selected, fetched⟩ := Checked.bind_ok (Checked.mapError_ok.mp answered)
    rw [ruleOf, Option.map_map]
    refine (selectLink_ok selected).symm.trans ?_
    cases found with
    | none => cases fetched
    | some other =>
        cases fetched
        rfl

/-- A request that admits its operation agrees with the tables after it. -/
theorem Admits.agrees (admits : Admits link sent stage operation) (agrees : stage.Agrees tables link) :
    (stage.after operation (answer state outside tables operation).1).Agrees
      (answer state outside tables operation).2 link := by
  have moves : Moves tables (answer state outside tables operation).2 := admits.moves
  have keeps : (∀ tree expected, operation ≠ .updateRuleTree tree link expected) →
      ruleOf (answer state outside tables operation).2 link = ruleOf tables link :=
    fun other => admits.keeps other link
  cases admits with
  | utcNow => trivial
  | guildPermission cookie guildId => trivial
  | selectConfig =>
      have kept := keeps fun _ _ => WebOp.noConfusion
      cases answered : (answer state outside tables (.selectConfig link)).1 with
      | error error => trivial
      | ok found =>
          cases found with
          | none => trivial
          | some row =>
              have found := selectConfig_ok answered
              exact ⟨_, kept.trans found.symm, .refl _⟩
  | updateRuleTree tree expected same stored =>
      have updated := answer_updated state outside tables link tree.toValue expected
      generalize answer state outside tables (.updateRuleTree tree.toValue link expected) = answered
        at updated
      cases updated with
      | failed error => trivial
      | unmatched other => trivial
      | replaced old version after matched later stored frame => exact ⟨version, stored⟩
  | selectViewPermission rule guildId => exact agrees.moves moves
  | selectNewVersion tree =>
      obtain ⟨version, found⟩ := agrees
      have kept := keeps fun _ _ => WebOp.noConfusion
      cases answered : (answer state outside tables (.selectNewVersion link)).1 with
      | error error => exact ⟨version, kept.trans found⟩
      | ok reread =>
          have same := selectNewVersion_ok answered
          rw [found] at same
          cases same
          exact ⟨_, kept.trans found, .refl _⟩
  | enqueueConfigSync rule other => exact agrees.moves moves
  | selectExistingVersion sends =>
      cases answered : (answer state outside tables (.selectExistingVersion link)).1 with
      | error error => trivial
      | ok found => cases found <;> trivial

/-- The tree that the update of a save replaces is the one that is held. -/
theorem Admits.replaces {tree : Option RuleTree}
    (admits : Admits link (sentBy tree rule.2) stage operation) (since : HeldSince tables link rule) :
    (if stage.wrote then some rule.1 else none).or
        (replacedBy tables operation (answer state outside tables operation).1) =
      if (stage.after operation (answer state outside tables operation).1).wrote
        then some rule.1 else none := by
  cases admits with
  | updateRuleTree rules expected same stored =>
      have updated := answer_updated state outside tables link rules.toValue expected
      generalize answer state outside tables (.updateRuleTree rules.toValue link expected) = answered
        at updated
      cases updated with
      | failed error => rfl
      | unmatched other => rfl
      | replaced old version after matched later stored frame =>
          obtain ⟨current, found, newer⟩ := since
          obtain rfl := Option.some.inj (matched.symm.trans found)
          obtain ⟨_, _, sent⟩ := Option.map_eq_some_iff.mp same
          have equal := newer.eq_of_version (congrArg Prod.snd sent).symm
          change (ruleOf tables link).map Prod.fst = some rule.1
          rw [matched, Option.map_some, ← equal]
  | selectConfig =>
      cases (answer state outside tables (.selectConfig link)).1 with
      | error error => rfl
      | ok found => cases found <;> rfl
  | selectNewVersion tree =>
      cases (answer state outside tables (.selectNewVersion link)).1 <;> rfl
  | selectExistingVersion sends =>
      cases (answer state outside tables (.selectExistingVersion link)).1 with
      | error error => rfl
      | ok found => cases found <;> rfl
  | _ => rfl

end Agreement

section Clients

variable {state : AppState} {outside : Outside} {tables after : Tables} {client now : Client}

/-- The pending request agrees with the tables, and its tree replaces the rule that is held. -/
def Pending.Sound (tables : Tables) (link : Link) (held : Option (RuleTree × Int4)) : Pending → Prop
  | .load program => ∃ stage, stage.Agrees tables link ∧ Follows (editing link none) Loads stage program
  | .save sent replaced program => ∃ stage rule, held = some rule ∧ stage.Agrees tables link ∧
      replaced = (if stage.wrote then some rule.1 else none) ∧
      Follows (editing link (sentBy sent rule.2)) (Saves (sentBy sent rule.2)) stage program

structure Client.Sound (tables : Tables) (client : Client) : Prop where
  held : ∀ rule ∈ client.held, HeldSince tables client.link rule
  pending : ∀ pending ∈ client.pending, pending.Sound tables client.link client.held

/-- A client that adopts an answer holds a rule of the tables. -/
theorem Client.Sound.settle (sound : client.Sound tables) : client.settle.Sound tables := by
  unfold Client.settle
  split
  · next data pending =>
      obtain ⟨stage, agrees, loads⟩ := sound.pending _ pending
      obtain rfl := loads data rfl
      refine ⟨fun rule held => ?_, fun _ none => ?_⟩
      · cases held
        exact agrees
      · cases none
  · exact ⟨sound.held, fun _ none => by cases none⟩
  · next sent replaced version pending =>
      obtain ⟨stage, rule, _, agrees, _, saves⟩ := sound.pending _ pending
      obtain ⟨tree, expected, same, rfl⟩ := saves.saved version rfl
      obtain ⟨_, rfl, equal⟩ := Option.map_eq_some_iff.mp same
      cases equal
      refine ⟨fun rule held => ?_, fun _ none => ?_⟩
      · cases held
        exact agrees
      · cases none
  · exact ⟨sound.held, fun _ none => by cases none⟩
  · exact sound

/-- The operation performed for a client leaves it sound. -/
theorem Client.Sound.advance (sound : client.Sound tables)
    (advanced : client.advance state outside tables = some (now, after)) : now.Sound after := by
  unfold Client.advance at advanced
  split at advanced
  · next operation next pending =>
      obtain ⟨stage, agrees, follows⟩ := sound.pending _ pending
      cases advanced
      refine Client.Sound.settle ⟨fun rule held => ?_, fun _ same => ?_⟩
      · exact (sound.held rule held).moves follows.1.moves
      · cases same
        exact ⟨_, follows.1.agrees agrees, follows.2 _ trivial⟩
  · next sent replaced operation next pending =>
      obtain ⟨stage, rule, held, agrees, rfl, follows⟩ := sound.pending _ pending
      cases advanced
      refine Client.Sound.settle ⟨fun rule held => ?_, fun _ same => ?_⟩
      · exact (sound.held rule held).moves follows.1.moves
      · cases same
        refine ⟨_, rule, held, follows.1.agrees agrees, ?_, follows.2 _ trivial⟩
        exact follows.1.replaces (sound.held rule held)
  · cases advanced

/-- A client that is settled waits for an operation, unless it is idle. -/
def Client.Waits (client : Client) : Prop := client.pending.isSome → client.waiting.isSome

/-- A settled client waits for an operation or has ended. -/
theorem Client.settle_waits (client : Client) : client.settle.Waits := by
  obtain ⟨link, held, pending, response⟩ := client
  intro some_pending
  cases pending with
  | none => exact absurd some_pending Bool.false_ne_true
  | some request =>
      cases request with
      | load program =>
          cases program with
          | call operation next => rfl
          | done data => exact absurd some_pending Bool.false_ne_true
          | fail error => exact absurd some_pending Bool.false_ne_true
      | save sent replaced program =>
          cases program with
          | call operation next => rfl
          | done version => exact absurd some_pending Bool.false_ne_true
          | fail error => exact absurd some_pending Bool.false_ne_true

/-- The link whose rule the operation replaces. -/
def matched (tables : Tables) : WebOp → Option Link
  | .updateRuleTree _ link expected =>
      if (ruleOf tables link).map Prod.snd = some expected then some link else none
  | _ => none

/-- The link whose version is read again after a save. -/
def rereads : WebOp → Option Link
  | .selectNewVersion link => some link
  | _ => none

/-- Only the matching save changes a rule. -/
theorem Admits.matched_of_changed {link target : Link} {sent : Option (RuleTree × Int4)} {stage : Stage}
    {operation : WebOp} (admits : Admits link sent stage operation)
    (changed : ruleOf (answer state outside tables operation).2 target ≠ ruleOf tables target) :
    outside.refused operation = none ∧ matched tables operation = some target := by
  have served : outside.refused operation = none := by
    unfold answer at changed
    split at changed
    · exact absurd rfl changed
    · assumption
  refine ⟨served, ?_⟩
  by_cases update : ∃ tree expected, operation = .updateRuleTree tree link expected
  · obtain ⟨tree, expected, rfl⟩ := update
    have updated := answer_updated state outside tables link tree expected
    generalize answer state outside tables (.updateRuleTree tree link expected) = answered
      at updated changed
    cases updated with
    | failed error => exact absurd rfl changed
    | unmatched other => exact absurd rfl changed
    | replaced old version after found later stored frame =>
        have same : target = link := by
          by_contra different
          exact changed (frame target different)
        subst same
        rw [matched, found, if_pos (by rfl)]
  · exact absurd (admits.keeps (fun tree expected same => update ⟨tree, expected, same⟩) target) changed

/-- A request that waits keeps its agreement, unless a rule it reads again is replaced. -/
theorem Admits.agrees_beside {link : Link} {sent : Option (RuleTree × Int4)} {stage : Stage}
    {operation : WebOp} (admits : Admits link sent stage operation) (agrees : stage.Agrees tables link)
    (moves : Moves tables after)
    (kept : rereads operation = some link → ruleOf after link = ruleOf tables link) :
    stage.Agrees after link := by
  cases admits with
  | selectNewVersion tree =>
      obtain ⟨version, found⟩ := agrees
      exact ⟨version, (kept rfl).trans found⟩
  | selectViewPermission rule guildId => exact agrees.moves moves
  | enqueueConfigSync rule other => exact agrees.moves moves
  | _ => trivial

/-- The step of another client leaves this one sound, unless it replaces a rule that is read again. -/
theorem Client.Sound.beside (sound : client.Sound tables) (waits : client.Waits)
    (moves : Moves tables after)
    (kept : ∀ operation ∈ client.waiting, rereads operation = some client.link →
      ruleOf after client.link = ruleOf tables client.link) : client.Sound after := by
  refine ⟨fun rule held => (sound.held rule held).moves moves, fun pending found => ?_⟩
  have inner := sound.pending pending found
  have called : client.waiting.isSome := waits (Option.isSome_of_mem found)
  unfold Client.waiting at called kept
  rw [Option.mem_def.mp found] at called kept
  cases pending with
  | load program =>
      obtain ⟨stage, agrees, follows⟩ := inner
      cases program with
      | call operation next =>
          exact ⟨stage, follows.1.agrees_beside agrees moves (kept operation rfl), follows⟩
      | done data => exact absurd called Bool.false_ne_true
      | fail error => exact absurd called Bool.false_ne_true
  | save sent replaced program =>
      obtain ⟨stage, rule, held, agrees, same, follows⟩ := inner
      cases program with
      | call operation next =>
          exact ⟨stage, rule, held, follows.1.agrees_beside agrees moves (kept operation rfl), same,
            follows⟩
      | done version => exact absurd called Bool.false_ne_true
      | fail error => exact absurd called Bool.false_ne_true

end Clients

section Run

variable {state : AppState} {outside : Outside} {tables last : Tables} {client now : Client}
  {system after : System}

/-- One operation of a client: what it may write, and how its save ends. -/
structure Locks (state : AppState) (outside : Outside) (tables last : Tables) (client now : Client) :
    Prop where
  /-- A write replaces the rule that the client holds. -/
  writes : ∀ link, ruleOf last link = ruleOf tables link ∨
    link = client.link ∧ client.held.isSome ∧ ruleOf tables link = client.held
  /-- A save that succeeds has replaced the tree that the client held. -/
  succeeds : ∀ sent replaced program version, client.pending = some (.save sent replaced program) →
    now.pending = none → now.response = some (.ok version) →
      replaced.isSome ∧ replaced = client.held.map Prod.fst
  /-- An update that finds another tree changes nothing, and the save looks for the link. -/
  rejects : ∀ tree expected affected,
    client.waiting = some (.updateRuleTree tree client.link expected) →
      (answer state outside tables (.updateRuleTree tree client.link expected)).1 = .ok affected →
        (ruleOf tables client.link).map Prod.fst ≠ client.held.map Prod.fst →
          last = tables ∧ now.waiting = some (.selectExistingVersion client.link)
  /-- Such a save returns `StaleVersion`. -/
  returns : ∀ found, client.waiting = some (.selectExistingVersion client.link) →
    (answer state outside tables (.selectExistingVersion client.link)).1 = .ok found →
      now.pending = none ∧ now.response = some (.error .staleVersion)

/-- A client changes its own link alone, and only over the rule that it holds. -/
theorem advance_writes (sound : client.Sound tables)
    (advanced : client.advance state outside tables = some (now, last)) (link : Link) :
    ruleOf last link = ruleOf tables link ∨
      link = client.link ∧ client.held.isSome ∧ ruleOf tables link = client.held := by
  unfold Client.advance at advanced
  split at advanced
  · next operation next pending =>
      obtain ⟨stage, agrees, follows⟩ := sound.pending _ pending
      cases advanced
      refine Or.inl (follows.1.keeps (fun tree expected same => ?_) link)
      subst same
      cases follows.1 with
      | updateRuleTree _ _ impossible _ => cases impossible
  · next sent replaced operation next pending =>
      obtain ⟨stage, rule, held, agrees, rfl, follows⟩ := sound.pending _ pending
      cases advanced
      by_cases update : ∃ tree expected, operation = .updateRuleTree tree client.link expected
      · obtain ⟨tree, expected, rfl⟩ := update
        have sent_expected : expected = rule.2 := by
          cases follows.1 with
          | updateRuleTree rules _ same stored =>
              obtain ⟨_, _, equal⟩ := Option.map_eq_some_iff.mp same
              exact (congrArg Prod.snd equal).symm
        have updated := answer_updated state outside tables client.link tree expected
        generalize answer state outside tables (.updateRuleTree tree client.link expected) = answered
          at updated
        cases updated with
        | failed error => exact Or.inl rfl
        | unmatched other => exact Or.inl rfl
        | replaced old version after matched later stored frame =>
            by_cases same : link = client.link
            · subst same
              obtain ⟨current, found, newer⟩ := sound.held rule held
              obtain rfl := Option.some.inj (matched.symm.trans found)
              refine Or.inr ⟨rfl, held ▸ rfl, ?_⟩
              rw [held, matched, newer.eq_of_version sent_expected]
            · exact Or.inl (frame link same)
      · exact Or.inl (follows.1.keeps (fun tree expected same => update ⟨tree, expected, same⟩) link)
  · cases advanced

/-- Only a request that has written reaches the end of a save. -/
theorem Admits.wrote_of_saved {link : Link} {sent : Option (RuleTree × Int4)} {stage : Stage}
    {operation : WebOp} {answer : Except AppError operation.Value} {rule : RuleTree × Int4}
    (admits : Admits link sent stage operation) (saved : stage.after operation answer = .saved rule) :
    stage.wrote = true := by
  cases admits with
  | utcNow => cases saved
  | guildPermission cookie guildId => cases saved
  | selectConfig =>
      cases answer with
      | error error => cases saved
      | ok found => cases found <;> cases saved
  | updateRuleTree tree expected same stored =>
      cases answer with
      | error error => cases saved
      | ok affected =>
          by_cases none_matched : affected = 0
          · rw [Stage.after, if_pos none_matched] at saved
            cases saved
          · rw [Stage.after, if_neg none_matched] at saved
            cases saved
  | selectViewPermission loaded guildId => cases saved
  | selectNewVersion tree => rfl
  | enqueueConfigSync written other => rfl
  | selectExistingVersion sends =>
      cases answer with
      | error error => cases saved
      | ok found => cases found <;> cases saved

/-- A save that succeeds has replaced the rule that the client holds. -/
theorem advance_succeeds (sound : client.Sound tables)
    (advanced : client.advance state outside tables = some (now, last))
    {sent replaced : Option RuleTree} {program : WebProgram Int4} {version : Int4}
    (pending : client.pending = some (.save sent replaced program)) (ended : now.pending = none)
    (succeeded : now.response = some (.ok version)) :
    replaced.isSome ∧ replaced = client.held.map Prod.fst := by
  unfold Client.advance at advanced
  rw [pending] at advanced
  cases program with
  | done value => cases advanced
  | fail error => cases advanced
  | call operation next =>
      obtain ⟨stage, rule, held, agrees, same, follows⟩ := sound.pending _ pending
      cases advanced
      have saves := follows.2 (answer state outside tables operation).1 trivial
      generalize next (answer state outside tables operation).1 = remaining
        at ended succeeded saves
      cases remaining with
      | call operation next => cases ended
      | fail error => cases succeeded
      | done value =>
          obtain ⟨tree, expected, _, saved⟩ := saves.saved value rfl
          rw [same, follows.1.wrote_of_saved saved, held]
          exact ⟨rfl, rfl⟩

/-- A save over another rule affects no row. -/
theorem advance_rejects (sound : client.Sound tables)
    (advanced : client.advance state outside tables = some (now, last))
    {tree : Json.Value} {expected : Int4} {affected : Nat}
    (waiting : client.waiting = some (.updateRuleTree tree client.link expected))
    (answered : (answer state outside tables (.updateRuleTree tree client.link expected)).1 =
      .ok affected)
    (other : (ruleOf tables client.link).map Prod.fst ≠ client.held.map Prod.fst) :
    last = tables ∧ now.waiting = some (.selectExistingVersion client.link) := by
  have writes := fun link => advance_writes sound advanced link
  unfold Client.advance at advanced
  unfold Client.waiting at waiting
  split at advanced
  · next operation next pending =>
      obtain ⟨stage, agrees, follows⟩ := sound.pending _ pending
      rw [pending] at waiting
      obtain rfl := Option.some.inj waiting
      cases follows.1 with
      | updateRuleTree _ _ impossible _ => cases impossible
  · next sent replaced operation next pending =>
      obtain ⟨stage, rule, held, agrees, same, follows⟩ := sound.pending _ pending
      rw [pending] at waiting
      obtain rfl := Option.some.inj waiting
      obtain ⟨admits, continues⟩ := follows
      obtain rfl : stage = .unread := by
        cases admits
        rfl
      have updated := answer_updated state outside tables client.link tree expected
      cases advanced
      generalize answer state outside tables (.updateRuleTree tree client.link expected) = result
        at updated answered writes
      cases updated with
      | failed error => cases answered
      | replaced old version after matched later stored frame =>
          obtain changed | ⟨_, _, replaced⟩ := writes client.link
          · rw [stored, matched] at changed
            cases changed
            exact absurd later (lt_irrefl _)
          · exact absurd (congrArg (Option.map Prod.fst) replaced) other
      | unmatched different =>
          refine ⟨rfl, ?_⟩
          have remaining := continues (.ok 0) trivial
          change Follows _ _ Stage.unmatched (next (.ok 0)) at remaining
          change (Client.settle { client with pending := some (.save sent _ (next (.ok 0))) }).waiting =
            some _
          generalize next (.ok 0) = program at remaining
          cases program with
          | done version => exact absurd rfl remaining.looks
          | fail error => exact absurd rfl remaining.looks
          | call operation next =>
              cases remaining.1
              rfl
  · cases advanced

/-- A save that found another version ends with the conflict. -/
theorem advance_returns (sound : client.Sound tables)
    (advanced : client.advance state outside tables = some (now, last)) {found : Option Int4}
    (waiting : client.waiting = some (.selectExistingVersion client.link))
    (answered : (answer state outside tables (.selectExistingVersion client.link)).1 = .ok found) :
    now.pending = none ∧ now.response = some (.error .staleVersion) := by
  unfold Client.advance at advanced
  unfold Client.waiting at waiting
  split at advanced
  · next operation next pending =>
      obtain ⟨stage, agrees, follows⟩ := sound.pending _ pending
      rw [pending] at waiting
      obtain rfl := Option.some.inj waiting
      cases follows.1 with
      | selectExistingVersion impossible => cases impossible
  · next sent replaced operation next pending =>
      obtain ⟨stage, rule, held, agrees, same, follows⟩ := sound.pending _ pending
      rw [pending] at waiting
      obtain rfl := Option.some.inj waiting
      obtain ⟨admits, continues⟩ := follows
      obtain rfl : stage = .unmatched := by
        cases admits
        rfl
      obtain ⟨current, stored, _⟩ := sound.held rule held
      have present : found = some current.2 := by
        rw [selectExistingVersion_ok answered, stored]
        rfl
      subst present
      cases advanced
      rw [answered]
      have remaining := continues (.ok (some current.2)) trivial
      change Follows _ _ Stage.stale (next (.ok (some current.2))) at remaining
      generalize next (.ok (some current.2)) = program at remaining
      cases program with
      | done version => cases remaining.stale rfl
      | fail error =>
          cases remaining.stale rfl
          exact ⟨rfl, rfl⟩
      | call operation next => cases remaining.1
  · cases advanced

/-- A step of a sound client keeps the lock. -/
theorem locks_of_sound (sound : client.Sound tables)
    (advanced : client.advance state outside tables = some (now, last)) :
    Locks state outside tables last client now where
  writes := advance_writes sound advanced
  succeeds _ _ _ _ := advance_succeeds sound advanced
  rejects _ _ _ := advance_rejects sound advanced
  returns _ := advance_returns sound advanced

/-- Only the operations of the requests change the tables, and each of them locks. -/
def LocksAt (state : AppState) (system : System) : Event → Prop
  | .advance index outside => ∀ client ∈ system.clients[index]?,
      ∀ after ∈ system.step state (.advance index outside), ∀ now ∈ after.clients[index]?,
        Locks state outside system.tables after.tables client now
  | event => ∀ after ∈ system.step state event, after.tables = system.tables

/-- Some client waits for the version that its save has written. -/
def awaited (clients : List Client) (link : Link) : Bool :=
  clients.any fun client => client.waiting.any fun operation => rereads operation = some link

/-- No update replaces a rule while another client waits for the version that it has written. -/
def Undisturbed (system : System) : Event → Prop
  | .advance index outside => ∀ client ∈ system.clients[index]?, ∀ operation ∈ client.waiting,
      outside.refused operation = none → ∀ link ∈ matched system.tables operation,
        awaited system.clients link = false
  | _ => True

instance (system : System) : ∀ event, Decidable (Undisturbed system event)
  | .advance index outside => inferInstanceAs (Decidable (∀ client ∈ system.clients[index]?,
      ∀ operation ∈ client.waiting, outside.refused operation = none →
        ∀ link ∈ matched system.tables operation, awaited system.clients link = false))
  | .load _ _ => isTrue trivial
  | .save _ _ _ => isTrue trivial
  | .drop _ => isTrue trivial

def System.Sound (system : System) : Prop :=
  ∀ client ∈ system.clients, client.Sound system.tables ∧ client.Waits

/-- A client that loads again stays sound. -/
theorem Client.Sound.load {headers : Headers} (sound : client.Sound tables)
    (loaded : client.load state headers = some now) : now.Sound tables ∧ now.Waits := by
  unfold Client.load at loaded
  split at loaded
  · cases loaded
  · cases loaded
    refine ⟨Client.Sound.settle ⟨sound.held, fun _ same => ?_⟩, Client.settle_waits _⟩
    cases same
    exact ⟨.unread, trivial, roleConfigData_follows state headers client.link⟩

/-- A client that saves what it holds stays sound. -/
theorem Client.Sound.save {headers : Headers} {tree : RuleValidator.RuleTreeBody}
    (sound : client.Sound tables) (saved : client.save state headers tree = some now) :
    now.Sound tables ∧ now.Waits := by
  unfold Client.save at saved
  split at saved
  · next rules version idle held =>
      cases saved
      refine ⟨Client.Sound.settle ⟨sound.held, fun _ same => ?_⟩, Client.settle_waits _⟩
      cases same
      exact ⟨.unread, (rules, version), held, trivial, rfl,
        roleConfigSave_follows state headers client.link ⟨version, tree⟩⟩
  · cases saved

/-- A client that goes away stays sound. -/
theorem Client.Sound.drop (sound : client.Sound tables) : client.drop.Sound tables :=
  ⟨sound.held, fun _ none => by cases none⟩

/-- A client waits for its next operation after each one. -/
theorem advance_waits (advanced : client.advance state outside tables = some (now, last)) :
    now.Waits := by
  unfold Client.advance at advanced
  split at advanced
  · cases advanced
    exact Client.settle_waits _
  · cases advanced
    exact Client.settle_waits _
  · cases advanced

/-- What an operation of a client changes is what it matches. -/
theorem advance_changes (sound : client.Sound tables)
    (advanced : client.advance state outside tables = some (now, last)) :
    Moves tables last ∧ ∃ operation ∈ client.waiting, ∀ link,
      ruleOf last link ≠ ruleOf tables link →
        outside.refused operation = none ∧ matched tables operation = some link := by
  unfold Client.advance at advanced
  unfold Client.waiting
  split at advanced
  · next operation next pending =>
      obtain ⟨stage, agrees, follows⟩ := sound.pending _ pending
      cases advanced
      rw [pending]
      exact ⟨follows.1.moves, operation, rfl, fun link => follows.1.matched_of_changed⟩
  · next sent replaced operation next pending =>
      obtain ⟨stage, rule, held, agrees, same, follows⟩ := sound.pending _ pending
      cases advanced
      rw [pending]
      exact ⟨follows.1.moves, operation, rfl, fun link => follows.1.matched_of_changed⟩
  · cases advanced

/-- A system stays sound when one client is replaced by a sound one. -/
theorem sound_set (sound : system.Sound) {index : Nat}
    (replaced : now.Sound system.tables ∧ now.Waits) :
    System.Sound { system with clients := system.clients.set index now } := by
  intro other member
  obtain old | rfl := List.mem_or_eq_of_mem_set member
  · exact sound other old
  · exact replaced

/-- An undisturbed operation keeps all clients sound. -/
theorem sound_advance (sound : system.Sound) {index : Nat}
    (undisturbed : Undisturbed system (.advance index outside))
    (stepped : system.step state (.advance index outside) = some after) : after.Sound := by
  obtain ⟨⟨now, last⟩, advanced, rfl⟩ := Option.map_eq_some_iff.mp stepped
  obtain ⟨client, found, advanced⟩ := Option.bind_eq_some_iff.mp advanced
  have own := (sound client (List.mem_of_getElem? found)).1
  obtain ⟨moves, operation, waiting, changes⟩ := advance_changes own advanced
  intro other member
  obtain old | rfl := List.mem_or_eq_of_mem_set member
  · obtain ⟨beside, waits⟩ := sound other old
    refine ⟨beside.beside waits moves fun reread rereading reads => ?_, waits⟩
    by_contra changed
    obtain ⟨served, matches_link⟩ := changes other.link changed
    have quiet := undisturbed client found operation waiting served other.link matches_link
    rw [awaited, List.any_eq_false] at quiet
    refine quiet other old ?_
    rw [Option.mem_def.mp rereading, Option.any_some]
    exact decide_eq_true reads
  · exact ⟨own.advance advanced, advance_waits advanced⟩

/-- An undisturbed step keeps all clients sound. -/
theorem sound_step (sound : system.Sound) {event : Event} (undisturbed : Undisturbed system event)
    (stepped : system.step state event = some after) : after.Sound := by
  cases event with
  | load index headers =>
      obtain ⟨now, loaded, rfl⟩ := Option.map_eq_some_iff.mp stepped
      obtain ⟨client, found, loaded⟩ := Option.bind_eq_some_iff.mp loaded
      exact sound_set sound ((sound client (List.mem_of_getElem? found)).1.load loaded)
  | save index headers tree =>
      obtain ⟨now, saved, rfl⟩ := Option.map_eq_some_iff.mp stepped
      obtain ⟨client, found, saved⟩ := Option.bind_eq_some_iff.mp saved
      exact sound_set sound ((sound client (List.mem_of_getElem? found)).1.save saved)
  | advance index outside => exact sound_advance sound undisturbed stepped
  | drop index =>
      obtain ⟨client, found, rfl⟩ := Option.map_eq_some_iff.mp stepped
      have dropped := (sound client (List.mem_of_getElem? found)).1.drop
      exact sound_set sound ⟨dropped, fun impossible => absurd impossible Bool.false_ne_true⟩

/-- The lock holds at every step of sound clients. -/
theorem locksAt_of_sound (sound : system.Sound) (event : Event) : LocksAt state system event := by
  cases event with
  | advance index outside =>
      intro client found after stepped now present
      obtain ⟨⟨client', last⟩, advanced, rfl⟩ := Option.map_eq_some_iff.mp stepped
      obtain ⟨other, same, advanced⟩ := Option.bind_eq_some_iff.mp advanced
      obtain rfl := Option.some.inj (found.symm.trans same)
      obtain ⟨inside, _⟩ := List.getElem?_eq_some_iff.mp found
      obtain rfl : client' = now := by
        change (system.clients.set index client')[index]? = some now at present
        rw [List.getElem?_set_self inside] at present
        exact Option.some.inj present
      exact locks_of_sound (sound client (List.mem_of_getElem? found)).1 advanced
  | load index headers =>
      intro after stepped
      obtain ⟨_, _, rfl⟩ := Option.map_eq_some_iff.mp stepped
      rfl
  | save index headers tree =>
      intro after stepped
      obtain ⟨_, _, rfl⟩ := Option.map_eq_some_iff.mp stepped
      rfl
  | drop index =>
      intro after stepped
      obtain ⟨_, _, rfl⟩ := Option.map_eq_some_iff.mp stepped
      rfl

/-- While no update falls between the update of another save and its second statement, every save that
succeeds replaces the tree that its client holds, and every other one ends as stale. -/
theorem saves_replace_held (state : AppState) (tables : Tables) (links : List Link)
    (events : List Event)
    (undisturbed : EventRun.Guarded (System.step state) Undisturbed (System.start tables links)
      events) :
    EventRun.Guarded (System.step state) (LocksAt state) (System.start tables links) events := by
  have start : (System.start tables links).Sound := by
    intro client member
    obtain ⟨link, _, rfl⟩ := List.mem_map.mp member
    refine ⟨⟨fun rule held => ?_, fun pending found => ?_⟩, fun impossible => ?_⟩
    · cases held
    · cases found
    · exact absurd impossible Bool.false_ne_true
  exact EventRun.guarded_of_invariant System.Sound
    (fun _ _ _ sound guarded stepped => sound_step sound guarded stepped)
    (fun _ event sound _ => locksAt_of_sound sound event) start undisturbed

end Run

section Overtaken

/-- The gateway calls every signed-in player a manager. -/
def managed : Outside :=
  { Sample.alone 0 with guildPermission := fun _ _ => .ok ⟨200, "200 OK", "", .ok ⟨true, true⟩⟩ }

def operations (index count : Nat) : List Event := List.replicate count (.advance index managed)

def granting (mode : Option String) : RuleValidator.RuleTreeBody := ⟨true, mode, []⟩

def editedTables : Tables :=
  Sample.oneLink (Sample.roleLink "token" Sample.grantAny) Table.empty List.nodup_nil

/-- Both clients load and save, and the second one loads after the first save. -/
def inTurn : List Event :=
  .load 0 Sample.signedIn :: operations 0 4 ++
    .save 0 Sample.signedIn (granting none) :: operations 0 5 ++
    .load 1 Sample.signedIn :: operations 1 4 ++
    .save 1 Sample.signedIn (granting (some "taiko")) :: operations 1 5

/-- The second client loads and saves between the two statements of the first save. -/
def overtaken : List Event :=
  .load 0 Sample.signedIn :: operations 0 4 ++
    .save 0 Sample.signedIn (granting none) :: operations 0 3 ++
    .load 1 Sample.signedIn :: operations 1 4 ++
    .save 1 Sample.signedIn (granting (some "taiko")) :: operations 1 5 ++
    operations 0 2 ++ .save 0 Sample.signedIn (granting (some "mania")) :: operations 0 3

/-- Two clients who save in turn keep the lock. -/
theorem saves_in_turn : EventRun.Guarded (System.step Sample.appState) (LocksAt Sample.appState)
    (System.start editedTables [Sample.link, Sample.link]) inTurn :=
  saves_replace_held Sample.appState editedTables [Sample.link, Sample.link] inTurn (by decide +kernel)

/-- The mode of a rule and its version. -/
def modeOf (rule : RuleTree × Int4) : Mode × Int := (rule.1.defaultMode, rule.2.val)

/-- Where the modes tell the rules apart, a write replaces the mode that the client holds. -/
def ReplacesMode (state : AppState) (system : System) : Event → Prop
  | .advance index outside => ∀ client ∈ system.clients[index]?,
      ∀ after ∈ system.step state (.advance index outside),
        (ruleOf after.tables Sample.link).map modeOf = (ruleOf system.tables Sample.link).map modeOf ∨
          (ruleOf system.tables Sample.link).map modeOf = client.held.map modeOf
  | _ => True

instance (state : AppState) (system : System) : ∀ event, Decidable (ReplacesMode state system event)
  | .advance index outside => inferInstanceAs (Decidable (∀ client ∈ system.clients[index]?,
      ∀ after ∈ system.step state (.advance index outside),
        (ruleOf after.tables Sample.link).map modeOf = (ruleOf system.tables Sample.link).map modeOf ∨
          (ruleOf system.tables Sample.link).map modeOf = client.held.map modeOf))
  | .load _ _ => isTrue trivial
  | .save _ _ _ => isTrue trivial
  | .drop _ => isTrue trivial

/-- The lock keeps the mode of the rule together with its groups. -/
theorem replacesMode_of_locksAt {state : AppState} {system : System} {event : Event}
    (locks : LocksAt state system event) : ReplacesMode state system event := by
  cases event with
  | advance index outside =>
      intro client found after stepped
      obtain ⟨⟨now, last⟩, _, same⟩ := Option.map_eq_some_iff.mp stepped
      obtain ⟨inside, _⟩ := List.getElem?_eq_some_iff.mp found
      have present : after.clients[index]? = some now := by
        rw [← same]
        exact List.getElem?_set_self inside
      obtain kept | ⟨_, _, replaced⟩ := (locks client found after stepped now present).writes Sample.link
      · exact Or.inl (congrArg _ kept)
      · exact Or.inr (congrArg _ replaced)
  | _ => trivial

/-- The first client adopts the version of the other save, and its next save replaces that rule. -/
theorem save_overtaken : ¬EventRun.Guarded (System.step Sample.appState) (LocksAt Sample.appState)
    (System.start editedTables [Sample.link, Sample.link]) overtaken := by
  intro guarded
  have modes := EventRun.guarded_mono (fun _ _ locks => replacesMode_of_locksAt locks) guarded
  revert modes
  decide +kernel

end Overtaken

end OsuPlayerRole.Editing
