/-
This file shows what a job has found out before each call that it makes to RoleLogic.
-/
import OsuPlayerRole.Construction.Tasks.SyncTrail
import OsuPlayerRole.Library.JobLog
import OsuPlayerRole.Proof.Rule.RuleAgreement

namespace OsuPlayerRole.Sync

open Resumption Program RuleSql SharedLog

/-- The operations of a job with their answers. -/
abbrev Findings := List (Performed SyncOp SyncOp.Value AppError)

/-- The operation has been answered with the value. -/
def Findings.Tell (findings : Findings) (operation : SyncOp) (value : operation.Value) : Prop :=
  (⟨operation, .ok value⟩ : Performed SyncOp SyncOp.Value AppError) ∈ findings

section Findings

variable (engines : Engines) (findings : Findings)

/-- The gateway lists the guild of the link for the player, and the link was read with its token and
rule. -/
def PlayerRead (discordId : DiscordId) (link : Link) (token : String) (tree : RuleTree) : Prop :=
  ∃ guildIds rows row, findings.Tell (.fetchUserGuildIds discordId) guildIds ∧
    findings.Tell (.selectRoleLinks guildIds) rows ∧ row ∈ rows ∧ row.link = link ∧
    row.apiToken = token ∧ RuleTree.ofColumn row.rawTree = tree

/-- The rule has been decided for the player. -/
inductive PlayerRuled (discordId : DiscordId) (tree : RuleTree) : Bool → Prop where
  | linked {isLinked : Bool} (granted : tree.grantOnAnyPlayer = true)
      (told : findings.Tell (.existsOsuUser discordId) isLinked) : PlayerRuled discordId tree isLinked
  | unconfigured (plain : tree.grantOnAnyPlayer = false) (empty : tree.groups.isEmpty = true) :
      PlayerRuled discordId tree false
  | unknown (plain : tree.grantOnAnyPlayer = false)
      (told : findings.Tell (.selectFacts discordId tree.defaultMode) none) :
      PlayerRuled discordId tree false
  | evaluated {row : FactsRow} {now : Timestamp} (plain : tree.grantOnAnyPlayer = false)
      (told : findings.Tell (.selectFacts discordId tree.defaultMode) (some row))
      (clock : findings.Tell .utcNow now) :
      PlayerRuled discordId tree (ConditionEval.evaluate engines now tree row.facts)

/-- The list has been decided for the link. -/
inductive LinkRuled (link : Link) (tree : RuleTree) : List DiscordId → Prop where
  | unconfigured (nobody : (!tree.grantOnAnyPlayer && tree.groups.isEmpty) = true) : LinkRuled link tree []
  | deserted (told : findings.Tell (.fetchGuildMemberIds link.1) []) : LinkRuled link tree []
  | linked {members ids : List DiscordId} {info : Nat × Nat} {token : String}
      (granted : tree.grantOnAnyPlayer = true) (inhabited : members ≠ [])
      (asked : findings.Tell (.fetchGuildMemberIds link.1) members)
      (informed : findings.Tell (.getUserInfo link token) info)
      (told : findings.Tell (.selectLinked members info.2) ids) : LinkRuled link tree ids
  | qualifying {members ids : List DiscordId} {info : Nat × Nat} {token : String}
      (plain : tree.grantOnAnyPlayer = false) (configured : tree.groups.isEmpty = false)
      (inhabited : members ≠ [])
      (asked : findings.Tell (.fetchGuildMemberIds link.1) members)
      (informed : findings.Tell (.getUserInfo link token) info)
      (told : findings.Tell (.selectQualifying tree.defaultMode members (buildRuleWhere tree 2).1
        (buildRuleWhere tree 2).2 info.2) ids) : LinkRuled link tree ids

/-- The list has been decided for the link that was read with this token. -/
def Ruled (link : Link) (token : String) (ids : List DiscordId) : Prop :=
  ∃ row, findings.Tell (.selectRoleLink link) (some row) ∧ row.apiToken = token ∧
    LinkRuled findings link (RuleTree.ofColumn row.rawTree) ids

/-- This is what a job may do with its findings. -/
def Permits : SyncOp → Prop
  | .addUser link discordId token => ∃ tree, PlayerRead findings discordId link token tree ∧
      PlayerRuled engines findings discordId tree true
  | .removeUser link discordId token => ∃ tree, PlayerRead findings discordId link token tree ∧
      PlayerRuled engines findings discordId tree false ∧
      ∃ existing, findings.Tell (.selectAssignmentsOf discordId) existing ∧ link ∈ existing
  | .uploadUsers link ids token => Ruled findings link token ids
  | .getUserInfo link token => ∃ row, findings.Tell (.selectRoleLink link) (some row) ∧
      row.apiToken = token
  | _ => True

end Findings

section Growing

variable {engines : Engines} {findings longer : Findings}

/-- Further findings keep what the job has read of a link. -/
theorem playerRead_further {discordId : DiscordId} {link : Link} {token : String} {tree : RuleTree}
    (more : findings ⊆ longer) (read : PlayerRead findings discordId link token tree) :
    PlayerRead longer discordId link token tree := by
  obtain ⟨guildIds, rows, row, asked, selected, facts⟩ := read
  exact ⟨guildIds, rows, row, more asked, more selected, facts⟩

/-- Further findings keep the verdict on a player. -/
theorem playerRuled_further {discordId : DiscordId} {tree : RuleTree} {verdict : Bool}
    (more : findings ⊆ longer) (ruled : PlayerRuled engines findings discordId tree verdict) :
    PlayerRuled engines longer discordId tree verdict := by
  cases ruled with
  | linked granted told => exact .linked granted (more told)
  | unconfigured plain empty => exact .unconfigured plain empty
  | unknown plain told => exact .unknown plain (more told)
  | evaluated plain told clock => exact .evaluated plain (more told) (more clock)

/-- Further findings keep the list of a rule. -/
theorem linkRuled_further {link : Link} {tree : RuleTree} {ids : List DiscordId}
    (more : findings ⊆ longer) (ruled : LinkRuled findings link tree ids) :
    LinkRuled longer link tree ids := by
  cases ruled with
  | unconfigured nobody => exact .unconfigured nobody
  | deserted told => exact .deserted (more told)
  | linked granted inhabited asked informed told =>
      exact .linked granted inhabited (more asked) (more informed) (more told)
  | qualifying plain configured inhabited asked informed told =>
      exact .qualifying plain configured inhabited (more asked) (more informed) (more told)

/-- Further findings keep the list of a link. -/
theorem ruled_further {link : Link} {token : String} {ids : List DiscordId} (more : findings ⊆ longer)
    (ruled : Ruled findings link token ids) : Ruled longer link token ids := by
  obtain ⟨row, told, presented, decided⟩ := ruled
  exact ⟨row, more told, presented, linkRuled_further more decided⟩

/-- Further findings permit no less. -/
theorem permits_growing (engines : Engines) : Growing (Permits engines) := by
  intro findings longer operation more permitted
  cases operation with
  | addUser link discordId token =>
      obtain ⟨tree, read, ruled⟩ := permitted
      exact ⟨tree, playerRead_further more read, playerRuled_further more ruled⟩
  | removeUser link discordId token =>
      obtain ⟨tree, read, ruled, existing, told, assigned⟩ := permitted
      exact ⟨tree, playerRead_further more read, playerRuled_further more ruled, existing, more told, assigned⟩
  | uploadUsers link ids token =>
      exact ruled_further more permitted
  | getUserInfo link token =>
      obtain ⟨row, told, presented⟩ := permitted
      exact ⟨row, more told, presented⟩
  | _ => trivial

end Growing

section Player

variable {engines : Engines} {discordId : DiscordId} {findings : Findings}

/-- An action that the job may perform with its findings. -/
def Grounded (engines : Engines) (discordId : DiscordId) (findings : Findings) : Action → Prop
  | .add link token => Permits engines findings (.addUser link discordId token)
  | .remove link token => Permits engines findings (.removeUser link discordId token)

/-- The verdict of the job rests on its findings. -/
theorem qualifies_permitted {isLinked : Bool} (tree : RuleTree)
    (told : findings.Tell (.existsOsuUser discordId) isLinked) :
    Follows (recorded (Permits engines))
      (fun answer last => ∀ qualified, answer = .ok qualified →
        findings ⊆ last ∧ PlayerRuled engines last discordId tree qualified)
      findings (qualifies engines discordId isLinked tree) := by
  unfold qualifies
  split
  · next granted =>
      intro qualified same
      cases same
      exact ⟨fun _ member => member, .linked granted told⟩
  · next plain =>
      have plain := Bool.eq_false_of_not_eq_true plain
      split
      · next empty =>
          intro qualified same
          cases same
          exact ⟨fun _ member => member, .unconfigured plain empty⟩
      · refine follows_ask_bind trivial (fun found _ => ?_) fun error _ qualified same => by cases same
        cases found with
        | none =>
            intro qualified same
            cases same
            exact ⟨List.subset_append_left _ _,
              .unknown plain (List.mem_append_right _ List.mem_cons_self)⟩
        | some row =>
            refine follows_ask_bind trivial (fun now _ => ?_) fun error _ qualified same => by cases same
            intro qualified same
            cases same
            refine ⟨List.Subset.trans (List.subset_append_left _ _) (List.subset_append_left _ _), .evaluated plain ?_ ?_⟩
            · exact List.mem_append_left _ (List.mem_append_right _ List.mem_cons_self)
            · exact List.mem_append_right _ List.mem_cons_self

/-- The plan of a job has an action only where the rule has been decided for the player. -/
theorem planActions_permitted {isLinked : Bool} {existing : Finset Link} {rows : List LinkRow}
    (linked : findings.Tell (.existsOsuUser discordId) isLinked)
    (assigned : findings.Tell (.selectAssignmentsOf discordId) existing)
    (read : ∀ row ∈ rows, PlayerRead findings discordId row.link row.apiToken
      (RuleTree.ofColumn row.rawTree)) :
    Follows (recorded (Permits engines))
      (fun answer last => ∀ actions, answer = .ok actions →
        findings ⊆ last ∧ ∀ action ∈ actions, Grounded engines discordId last action)
      findings (planActions engines discordId isLinked existing rows) := by
  induction rows generalizing findings with
  | nil =>
      intro actions same
      cases same
      exact ⟨fun _ member => member, fun action impossible => absurd impossible List.not_mem_nil⟩
  | cons row rest ih =>
      refine follows_bind (qualifies_permitted _ linked) (fun qualified between reached => ?_)
        fun error _ _ actions same => by cases same
      obtain ⟨more, ruled⟩ := reached qualified rfl
      refine follows_bind (ih (more linked) (more assigned) fun other inside =>
        playerRead_further more (read other (List.mem_cons_of_mem _ inside)))
        (fun actions last planned => ?_) fun error _ _ actions same => by cases same
      obtain ⟨further, grounded⟩ := planned actions rfl
      have here := playerRead_further further (playerRead_further more (read row List.mem_cons_self))
      have decided := playerRuled_further further ruled
      split
      · intro whole same
        cases same
        exact ⟨List.Subset.trans more further, List.forall_mem_cons.mpr ⟨⟨_, here, decided⟩, grounded⟩⟩
      · next member =>
          intro whole same
          cases same
          refine ⟨List.Subset.trans more further, List.forall_mem_cons.mpr ⟨⟨_, here, decided, existing, ?_, ?_⟩, grounded⟩⟩
          · exact further (more assigned)
          · exact of_decide_eq_true member
      · intro whole same
        cases same
        exact ⟨List.Subset.trans more further, grounded⟩

/-- Each planned action rests on the findings of the job. -/
theorem syncForPlayer_permitted (engines : Engines) (discordId : DiscordId) :
    Follows (recorded (Permits engines))
      (fun answer last => ∀ actions, answer = .ok actions →
        ∀ action ∈ actions, Grounded engines discordId last action)
      [] (syncForPlayer engines discordId) := by
  have idle (answer : List Action) (none : answer = []) (last : Findings) (actions : List Action)
      (same : (Except.ok answer : Except AppError _) = .ok actions) :
      ∀ action ∈ actions, Grounded engines discordId last action := by
    cases same
    rw [none]
    exact fun action impossible => absurd impossible List.not_mem_nil
  refine follows_ask_bind trivial (fun guildIds _ => ?_) fun error _ actions same => by cases same
  split
  · exact idle [] rfl _
  · refine follows_ask_bind trivial (fun rows _ => ?_) fun error _ actions same => by cases same
    split
    · exact idle [] rfl _
    · refine follows_ask_bind trivial (fun isLinked _ => ?_) fun error _ actions same => by cases same
      refine follows_ask_bind trivial (fun existing _ => ?_) fun error _ actions same => by cases same
      refine follows_mono (fun answer last planned actions same => (planned actions same).2)
        (planActions_permitted ?_ ?_ fun row member => ⟨guildIds, rows, row, ?_, ?_, member, rfl, rfl, rfl⟩)
      · exact List.mem_append_left _ (List.mem_append_right _ List.mem_cons_self)
      · exact List.mem_append_right _ List.mem_cons_self
      · exact List.mem_append_left _ (List.mem_append_left _ (List.mem_append_left _ List.mem_cons_self))
      · exact List.mem_append_left _ (List.mem_append_left _ (List.mem_append_right _ List.mem_cons_self))

/-- The operations that no finding has to permit. -/
def SyncOp.free : SyncOp → Prop
  | .addUser _ _ _ => False
  | .removeUser _ _ _ => False
  | .uploadUsers _ _ _ => False
  | .getUserInfo _ _ => False
  | _ => True

/-- A free operation needs no finding. -/
theorem permits_of_free (findings : Findings) (operation : SyncOp) (free : operation.free) :
    Permits engines findings operation := by
  cases operation <;> trivial

/-- A program of free operations needs no finding. -/
theorem follows_of_free {A : Type} {program : SyncProgram A} (only : program.Only SyncOp.free)
    (findings : Findings) : Follows (recorded (Permits engines)) (fun _ _ => True) findings program :=
  follows_mono (fun _ _ _ => trivial) (follows_recorded permits_of_free only findings)

/-- A free operation that is only recorded stays free. -/
theorem recorded_free {operation : SyncOp} (free : operation.free) :
    (result operation >>= fun _ => Program.done ()).Only SyncOp.free :=
  only_bind (only_result free) fun _ => trivial

/-- The deletion of an orphan is free. -/
theorem deleteOrphanRoleLink_free (link : Link) : (deleteOrphanRoleLink link).Only SyncOp.free :=
  recorded_free trivial

/-- A grounded action sends its request and then only statements that are free. -/
theorem performAction_permitted {action : Action} (grounded : Grounded engines discordId findings action) :
    Follows (recorded (Permits engines)) (fun _ _ => True) findings (performAction discordId action) := by
  cases action with
  | add link token =>
      refine ⟨grounded, fun answer _ => ?_⟩
      cases answer with
      | ok value =>
          exact follows_of_free
            (recorded_free (show SyncOp.free (.insertAssignment link discordId) from trivial)) _
      | error error =>
          cases error <;> first | trivial | exact follows_of_free (deleteOrphanRoleLink_free link) _
  | remove link token =>
      refine ⟨grounded, fun answer _ => ?_⟩
      cases answer with
      | ok value =>
          exact follows_of_free
            (recorded_free (show SyncOp.free (.deleteAssignment link discordId) from trivial)) _
      | error error =>
          cases error <;> first | trivial | exact follows_of_free (deleteOrphanRoleLink_free link) _

end Player

section RoleLink

variable {engines : Engines} {link : Link} {token : String} {findings : Findings}

/-- What follows an upload is free. -/
theorem afterUpload_free {answer : Except AppError Nat} {stored : SyncProgram Unit}
    (mirror : stored.Only SyncOp.free) : (afterUpload link answer stored).Only SyncOp.free := by
  unfold afterUpload
  split
  · exact mirror
  · exact deleteOrphanRoleLink_free link
  all_goals trivial

/-- A list is sent only as it has been decided. -/
theorem upload_permitted {ids : List DiscordId} {stored : SyncProgram Unit}
    (ruled : Ruled findings link token ids) (mirror : stored.Only SyncOp.free) :
    Follows (recorded (Permits engines)) (fun _ _ => True) findings
      (result (.uploadUsers link ids token) >>= fun answer => afterUpload link answer stored) :=
  ⟨ruled, fun _ _ => follows_of_free (afterUpload_free mirror) _⟩

/-- The drain sends the empty list only where it has been decided. -/
theorem drainToEmpty_permitted (ruled : Ruled findings link token []) :
    Follows (recorded (Permits engines)) (fun _ _ => True) findings (drainToEmpty link token) := by
  refine follows_ask_bind trivial (fun present _ => ?_) fun _ _ => trivial
  split
  · trivial
  · exact upload_permitted (ruled_further (List.subset_append_left _ _) ruled) (only_ask trivial)

/-- The replacement sends the decided list or nothing. -/
theorem replaceList_permitted {ids : List DiscordId} (ruled : Ruled findings link token ids) :
    Follows (recorded (Permits engines)) (fun _ _ => True) findings (replaceList link token ids) := by
  refine follows_ask_bind trivial (fun current _ => ?_) fun _ _ => trivial
  split
  · trivial
  · exact upload_permitted (ruled_further (List.subset_append_left _ _) ruled) (only_ask trivial)

/-- What the query answers is the decided list. -/
theorem qualifyingQuery_permitted {row : LinkRow} {members : List DiscordId} {info : Nat × Nat}
    (somebody : ¬(!(RuleTree.ofColumn row.rawTree).grantOnAnyPlayer &&
      (RuleTree.ofColumn row.rawTree).groups.isEmpty) = true) (inhabited : members ≠ [])
    (told : findings.Tell (.selectRoleLink link) (some row))
    (asked : findings.Tell (.fetchGuildMemberIds link.1) members)
    (informed : findings.Tell (.getUserInfo link token) info) :
    Follows (recorded (Permits engines))
      (fun answer last => ∀ ids, answer = .ok ids → Ruled last link row.apiToken ids)
      findings (qualifyingQuery (RuleTree.ofColumn row.rawTree) members info.2) := by
  unfold qualifyingQuery
  split
  · next granted =>
      refine follows_ask trivial fun answer _ ids same => ?_
      cases same
      exact ⟨row, List.mem_append_left _ told, rfl, .linked granted inhabited
        (List.mem_append_left _ asked) (List.mem_append_left _ informed)
        (List.mem_append_right _ List.mem_cons_self)⟩
  · next plain =>
      have plain := Bool.eq_false_of_not_eq_true plain
      have configured : (RuleTree.ofColumn row.rawTree).groups.isEmpty = false := by
        simpa [plain] using somebody
      refine follows_ask trivial fun answer _ ids same => ?_
      cases same
      exact ⟨row, List.mem_append_left _ told, rfl, .qualifying plain configured inhabited
        (List.mem_append_left _ asked) (List.mem_append_left _ informed)
        (List.mem_append_right _ List.mem_cons_self)⟩

/-- Every call of a link job rests on the findings of the job. -/
theorem syncForRoleLink_permitted (engines : Engines) (link : Link) :
    Follows (recorded (Permits engines)) (fun _ _ => True) [] (syncForRoleLink link) := by
  refine follows_ask_bind trivial (fun found _ => ?_) fun _ _ => trivial
  cases found with
  | none => trivial
  | some row =>
      dsimp only
      split
      · next nobody =>
          exact drainToEmpty_permitted ⟨row, List.mem_append_right _ List.mem_cons_self, rfl,
            .unconfigured nobody⟩
      · next somebody =>
          refine follows_ask_bind trivial (fun members _ => ?_) fun _ _ => trivial
          split
          · next deserted =>
              obtain rfl := List.isEmpty_iff.mp deserted
              refine drainToEmpty_permitted ⟨row, ?_, rfl, .deserted ?_⟩
              · exact List.mem_append_left _ (List.mem_append_right _ List.mem_cons_self)
              · exact List.mem_append_right _ List.mem_cons_self
          · next inhabited =>
              have inhabited : members ≠ [] := fun none => inhabited (List.isEmpty_iff.mpr none)
              refine ⟨⟨row, ?_, rfl⟩, fun answer _ => ?_⟩
              · exact List.mem_append_left _ (List.mem_append_right _ List.mem_cons_self)
              · cases answer with
                | error error =>
                    cases error <;> first | trivial | exact follows_of_free (deleteOrphanRoleLink_free link) _
                | ok info =>
                    change Follows _ _ _ (qualifyingQuery (RuleTree.ofColumn row.rawTree) members info.2 >>=
                      replaceList link row.apiToken)
                    refine follows_bind (qualifyingQuery_permitted somebody inhabited ?_ ?_
                      (List.mem_append_right _ List.mem_cons_self)) (fun ids last ruled => ?_)
                      fun _ _ _ => trivial
                    · exact List.mem_append_left _
                        (List.mem_append_left _ (List.mem_append_right _ List.mem_cons_self))
                    · exact List.mem_append_left _ (List.mem_append_right _ List.mem_cons_self)
                    · exact replaceList_permitted (ruled ids rfl)

end RoleLink

end OsuPlayerRole.Sync
