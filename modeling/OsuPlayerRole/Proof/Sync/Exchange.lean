/-
This file shows how the jobs order their calls of RoleLogic and their writes to the mirror.
-/
import OsuPlayerRole.Construction.Tasks.SyncSystem

namespace OsuPlayerRole.Sync

open Resumption Program

/-- A thread owes the mirror what RoleLogic made, or deletes the link that RoleLogic rejected. -/
inductive Status where
  | idle
  | owes (link : Link) (update : Update)
  | rejected (link : Link)

def Part.needs : Part → Status
  | .mirror link update => .owes link update
  | .orphan link => .rejected link
  | _ => .idle

def Part.after {A : Type} : Part → Except AppError A → Status
  | .roleLogic link (some update), .ok _ => .owes link update
  | .roleLogic link _, .error .roleLinkNotFound => .rejected link
  | _, _ => .idle

/-- The database answers with known links, and with lists that name each user once. -/
def Plausible (known : Link → Prop) :
    (operation : SyncOp) → Except AppError operation.Value → Prop
  | .selectRoleLinks _, .ok rows => ∀ row ∈ rows, known row.link
  | .selectRoleLink link, .ok row => row.isSome → known link
  | .selectLinked _ _, .ok ids => ids.Nodup
  | .selectQualifying _ _ _ _ _, .ok ids => ids.Nodup
  | _, _ => True

/-- The writes to the mirror are for known links, and a replacement names each user once. -/
structure Admissible (known : Link → Prop) (operation : SyncOp) : Prop where
  stored : ∀ link update, operation.part = .mirror link update → known link
  distinct : ∀ link ids, operation = .replaceAssignments link ids → ids.Nodup

def exchange (known : Link → Prop) : Protocol SyncOp SyncOp.Value AppError Status where
  allowed status operation := status = operation.part.needs ∧ Admissible known operation
  possible _ operation answer := Plausible known operation answer
  next _ operation answer := operation.part.after answer

def needs (operation : SyncOp) : Status := operation.part.needs

abbrev statusOf (thread : SyncThread) : Status := thread.status needs .idle

/-- The protocol allows an operation in one status only. -/
theorem exchange_directed {known : Link → Prop} :
    ∀ status operation, (exchange known).allowed status operation →
      status = needs operation := fun _ _ allowed => allowed.1

section Programs

variable {known : Link → Prop} {A : Type}

/-- An operation outside the exchange is admissible. -/
theorem admissible_other {operation : SyncOp} (part : operation.part = .other) :
    Admissible known operation where
  stored link update mirrored := by
    rw [part] at mirrored
    cases mirrored
  distinct link ids same := by
    subst same
    cases part

/-- A request to RoleLogic is admissible for its own link. -/
theorem admissible_roleLogic {operation : SyncOp} {link : Link} {update : Option Update}
    (part : operation.part = .roleLogic link update) : Admissible known operation where
  stored other update mirrored := by
    rw [part] at mirrored
    cases mirrored
  distinct other ids same := by
    subst same
    cases part

/-- The rule of a local read: it starts and ends at rest. -/
theorem follows_read {operation : SyncOp} {rest : operation.Value → SyncProgram A}
    {post : Except AppError A → Status → Prop} (part : operation.part = .other)
    (answered : ∀ value, Plausible known operation (.ok value) →
      Follows (exchange known) post .idle (rest value))
    (failed : ∀ error, post (.error error) .idle) :
    Follows (exchange known) post .idle (ask operation >>= rest) := by
  have needed : operation.part.needs = .idle := by rw [part]; rfl
  have ended : ∀ answer : Except AppError operation.Value, operation.part.after answer = .idle := by
    intro answer
    rw [part]
    rfl
  refine ⟨⟨needed.symm, admissible_other part⟩, fun answer possible => ?_⟩
  have after : (exchange known).next .idle operation answer = .idle := ended answer
  rw [after]
  cases answer with
  | ok value => exact answered value possible
  | error error => exact failed error

/-- The rule of a RoleLogic call: it starts at rest, and the rest meets each of its outcomes. -/
theorem follows_call {operation : SyncOp} {link : Link} {update : Option Update}
    {rest : Except AppError operation.Value → SyncProgram A}
    {post : Except AppError A → Status → Prop} (part : operation.part = .roleLogic link update)
    (continued : ∀ answer,
      Follows (exchange known) post ((Part.roleLogic link update).after answer) (rest answer)) :
    Follows (exchange known) post .idle (result operation >>= rest) := by
  have needed : operation.part.needs = .idle := by rw [part]; rfl
  refine ⟨⟨needed.symm, admissible_roleLogic part⟩, fun answer possible => ?_⟩
  have after : (exchange known).next .idle operation answer =
      (Part.roleLogic link update).after answer := congrArg (fun p => Part.after p answer) part
  rw [after]
  exact continued answer

/-- The rule of a write to the mirror: it pays what the thread owes. -/
theorem follows_mirror {operation : SyncOp} {link : Link} {update : Update}
    {rest : Except AppError operation.Value → SyncProgram A}
    {post : Except AppError A → Status → Prop} (part : operation.part = .mirror link update)
    (admissible : Admissible known operation)
    (continued : ∀ answer, Follows (exchange known) post .idle (rest answer)) :
    Follows (exchange known) post (.owes link update) (result operation >>= rest) := by
  have needed : operation.part.needs = .owes link update := by rw [part]; rfl
  refine ⟨⟨needed.symm, admissible⟩, fun answer possible => ?_⟩
  have after : (exchange known).next (.owes link update) operation answer = .idle :=
    congrArg (fun p => Part.after p answer) part
  rw [after]
  exact continued answer

/-- The postcondition of a program that leaves nothing open. -/
def AtRest (_ : Except AppError A) (status : Status) : Prop := status = .idle

/-- The deletion of an orphan ends at rest. -/
theorem deleteOrphanRoleLink_follows (link : Link) :
    Follows (exchange known) AtRest (.rejected link) (deleteOrphanRoleLink link) := by
  refine ⟨⟨rfl, ⟨fun _ _ mirrored => ?_, fun _ _ same => ?_⟩⟩, fun answer possible => rfl⟩
  · cases mirrored
  · cases same

/-- The verdict keeps the protocol idle. -/
theorem qualifies_follows (engines : Engines) (discordId : DiscordId) (isLinked : Bool)
    (tree : RuleTree) :
    Follows (exchange known) AtRest .idle (qualifies engines discordId isLinked tree) := by
  unfold qualifies
  by_cases granted : tree.grantOnAnyPlayer
  · rw [if_pos granted]
    exact rfl
  · rw [if_neg granted]
    by_cases empty : tree.groups.isEmpty
    · rw [if_pos empty]
      exact rfl
    · rw [if_neg empty]
      refine follows_read rfl (fun row _ => ?_) fun _ => rfl
      cases row with
      | none => exact rfl
      | some row => exact follows_read rfl (fun now _ => rfl) fun _ => rfl

def Action.link : Action → Link
  | .add link _ => link
  | .remove link _ => link

/-- A planned list of actions names known links. -/
def Planned (known : Link → Prop) (answer : Except AppError (List Action)) (status : Status) : Prop :=
  status = .idle ∧ ∀ actions, answer = .ok actions → ∀ action ∈ actions, known action.link

/-- A failed plan has no action. -/
theorem planned_error (error : AppError) : Planned known (.error error) .idle :=
  ⟨rfl, fun _ impossible => by cases impossible⟩

/-- The empty plan is sound. -/
theorem planned_nil : Planned known (.ok []) .idle := by
  refine ⟨rfl, fun actions same => ?_⟩
  cases same
  exact fun action inside => absurd inside List.not_mem_nil

/-- A further action of a known link keeps the plan sound. -/
theorem planned_cons {action : Action} {actions : List Action} (stored : known action.link)
    (planned : Planned known (.ok actions) .idle) : Planned known (.ok (action :: actions)) .idle := by
  refine ⟨rfl, fun _ same => ?_⟩
  cases same
  intro other inside
  obtain rfl | later := List.mem_cons.mp inside
  · exact stored
  · exact planned.2 actions rfl other later

/-- The plan has actions on known links alone. -/
theorem planActions_follows (engines : Engines) (discordId : DiscordId) (isLinked : Bool)
    (existing : Finset Link) {rows : List LinkRow} (stored : ∀ row ∈ rows, known row.link) :
    Follows (exchange known) (Planned known) .idle
      (planActions engines discordId isLinked existing rows) := by
  induction rows with
  | nil => exact planned_nil
  | cons row rest ih =>
      have here : known row.link := stored row List.mem_cons_self
      have later := ih fun other inside => stored other (List.mem_cons_of_mem row inside)
      refine follows_bind (qualifies_follows engines discordId isLinked _) ?_ ?_
      · rintro qualified status rfl
        refine follows_bind later ?_ ?_
        · rintro actions status planned
          obtain rfl := planned.1
          match qualified, decide (row.link ∈ existing) with
          | true, false => exact planned_cons here planned
          | false, true => exact planned_cons here planned
          | true, true => exact planned
          | false, false => exact planned
        · rintro error status ⟨rfl, _⟩
          exact planned_error error
      · rintro error status rfl
        exact planned_error error

/-- The reads of a player job end with a sound plan. -/
theorem syncForPlayer_follows (engines : Engines) (discordId : DiscordId) :
    Follows (exchange known) (Planned known) .idle (syncForPlayer engines discordId) := by
  refine follows_read rfl (fun guildIds _ => ?_) planned_error
  by_cases noGuilds : guildIds.isEmpty
  · rw [if_pos noGuilds]
    exact planned_nil
  · rw [if_neg noGuilds]
    refine follows_read rfl (fun rows stored => ?_) planned_error
    by_cases noLinks : rows.isEmpty
    · rw [if_pos noLinks]
      exact planned_nil
    · rw [if_neg noLinks]
      refine follows_read rfl (fun isLinked _ => ?_) planned_error
      refine follows_read rfl (fun existing _ => ?_) planned_error
      exact planActions_follows engines discordId isLinked existing stored

/-- Each action pays to the mirror what RoleLogic accepted. -/
theorem performAction_follows (discordId : DiscordId) {action : Action} (stored : known action.link) :
    Follows (exchange known) AtRest .idle (performAction discordId action) := by
  have notReplaced : ∀ (operation : SyncOp) (link : Link) (update : Update),
      operation.part = .mirror link update → link = action.link →
      (∀ other ids, operation ≠ .replaceAssignments other ids) → Admissible known operation := by
    intro operation link update part same single
    refine ⟨fun other written mirrored => ?_, fun other ids equal => absurd equal (single other ids)⟩
    rw [part] at mirrored
    cases mirrored
    exact same ▸ stored
  cases action with
  | add link token =>
      refine follows_call rfl fun answer => ?_
      cases answer with
      | ok added =>
          refine follows_mirror rfl (notReplaced _ _ _ rfl rfl ?_) fun _ => rfl
          exact fun other ids same => by cases same
      | error error =>
          cases error with
          | roleLinkNotFound => exact deleteOrphanRoleLink_follows link
          | _ => exact rfl
  | remove link token =>
      refine follows_call rfl fun answer => ?_
      cases answer with
      | ok removed =>
          refine follows_mirror rfl (notReplaced _ _ _ rfl rfl ?_) fun _ => rfl
          exact fun other ids same => by cases same
      | error error =>
          cases error with
          | roleLinkNotFound => exact deleteOrphanRoleLink_follows link
          | _ => exact rfl

/-- The rule of a write to the mirror whose error ends the program. -/
theorem follows_write {operation : SyncOp} {link : Link} {update : Update}
    (part : operation.part = .mirror link update) (admissible : Admissible known operation) :
    Follows (exchange known) AtRest (.owes link update) (ask operation) := by
  have needed : operation.part.needs = .owes link update := by rw [part]; rfl
  refine follows_ask ⟨needed.symm, admissible⟩ fun answer possible => ?_
  change operation.part.after answer = .idle
  rw [part]
  rfl

/-- The full replacement pays to the mirror what RoleLogic accepted. -/
theorem afterUpload_follows {link : Link} {update : Update} (answer : Except AppError Nat)
    {stored : SyncProgram Unit}
    (paid : Follows (exchange known) AtRest (.owes link update) stored) :
    Follows (exchange known) AtRest ((Part.roleLogic link (some update)).after answer)
      (afterUpload link answer stored) := by
  cases answer with
  | ok count => exact paid
  | error error =>
      cases error with
      | roleLinkNotFound => exact deleteOrphanRoleLink_follows link
      | _ => exact rfl

/-- The drain answers its request before it rests. -/
theorem drainToEmpty_follows {link : Link} (stored : known link) (token : String) :
    Follows (exchange known) AtRest .idle (drainToEmpty link token) := by
  refine follows_read rfl (fun present _ => ?_) fun _ => rfl
  by_cases empty : !present
  · rw [if_pos empty]
    exact rfl
  · rw [if_neg empty]
    refine follows_call rfl fun answer => afterUpload_follows answer (follows_write rfl ?_)
    refine ⟨fun other update mirrored => ?_, fun other ids same => by cases same⟩
    cases mirrored
    exact stored

/-- The replacement answers its request before it rests. -/
theorem replaceList_follows {link : Link} (stored : known link) (token : String)
    {qualifying : List DiscordId} (distinct : qualifying.Nodup) :
    Follows (exchange known) AtRest .idle (replaceList link token qualifying) := by
  refine follows_read rfl (fun current _ => ?_) fun _ => rfl
  by_cases same : current = qualifying
  · rw [if_pos same]
    exact rfl
  · rw [if_neg same]
    refine follows_call rfl fun answer => afterUpload_follows answer (follows_write rfl ?_)
    refine ⟨fun other update mirrored => ?_, fun other ids equal => ?_⟩
    · cases mirrored
      exact stored
    · cases equal
      exact distinct

/-- The list that a query returns names each user once. -/
def Distinct (answer : Except AppError (List DiscordId)) (status : Status) : Prop :=
  status = .idle ∧ ∀ ids, answer = .ok ids → ids.Nodup

/-- A failed query has no list. -/
theorem distinct_error (error : AppError) : Distinct (.error error) .idle :=
  ⟨rfl, fun _ impossible => by cases impossible⟩

/-- The query lists each member once. -/
theorem qualifyingQuery_follows (tree : RuleTree) (members : List DiscordId) (userLimit : Nat) :
    Follows (exchange known) Distinct .idle (qualifyingQuery tree members userLimit) := by
  unfold qualifyingQuery
  by_cases granted : tree.grantOnAnyPlayer
  · rw [if_pos granted]
    refine ⟨⟨rfl, admissible_other rfl⟩, fun answer possible => ?_⟩
    cases answer with
    | ok ids => exact ⟨rfl, fun _ same => Except.ok.inj same ▸ possible⟩
    | error error => exact distinct_error error
  · rw [if_neg granted]
    refine ⟨⟨rfl, admissible_other rfl⟩, fun answer possible => ?_⟩
    cases answer with
    | ok ids => exact ⟨rfl, fun _ same => Except.ok.inj same ▸ possible⟩
    | error error => exact distinct_error error

/-- The job of a link answers each of its requests before it rests. -/
theorem syncForRoleLink_follows (link : Link) :
    Follows (exchange known) AtRest .idle (syncForRoleLink link) := by
  refine follows_read rfl (fun row expected => ?_) fun _ => rfl
  cases row with
  | none => exact rfl
  | some row =>
      have stored : known link := expected rfl
      dsimp only
      split
      · exact drainToEmpty_follows stored row.apiToken
      · refine follows_read rfl (fun members _ => ?_) fun _ => rfl
        by_cases nobody : members.isEmpty
        · rw [if_pos nobody]
          exact drainToEmpty_follows stored row.apiToken
        · rw [if_neg nobody]
          refine follows_call rfl fun answer => ?_
          cases answer with
          | error error =>
              cases error with
              | roleLinkNotFound => exact deleteOrphanRoleLink_follows link
              | _ => exact rfl
          | ok info =>
              refine follows_bind (qualifyingQuery_follows _ members info.2) ?_ ?_
              · rintro qualifying status ⟨rfl, distinct⟩
                exact replaceList_follows stored row.apiToken (distinct qualifying rfl)
              · rintro error status ⟨rfl, _⟩
                rfl

/-- Both kinds of jobs and all of their branches keep to the exchange. -/
theorem dispatch_follows (known : Link → Prop) (engines : Engines) (dispatch : Dispatch) :
    Follows (exchange known) (Spawns (exchange known) .idle) .idle (dispatch.program engines) := by
  have ended : ∀ (error : AppError), Spawns (exchange known) .idle (.error error) .idle :=
    fun error => ⟨rfl, fun _ impossible => by cases impossible⟩
  cases dispatch with
  | playerSync discordId =>
      refine follows_bind (syncForPlayer_follows engines discordId) ?_ ?_
      · rintro actions status ⟨rfl, planned⟩
        refine ⟨rfl, fun branches same branch inside => ?_⟩
        cases same
        obtain ⟨action, member, rfl⟩ := List.mem_map.mp inside
        exact performAction_follows discordId (planned actions rfl action member)
      · rintro error status ⟨rfl, _⟩
        exact ended error
  | configSync link =>
      refine follows_bind (syncForRoleLink_follows link) ?_ ?_
      · rintro value status rfl
        refine ⟨rfl, fun branches same branch inside => ?_⟩
        cases same
        exact absurd inside List.not_mem_nil
      · rintro error status rfl
        exact ended error

end Programs

end OsuPlayerRole.Sync
