/-
This file shows what a player job leaves behind when any of its operations may fail.
-/
import OsuPlayerRole.Proof.Sync.ActionOrder
import OsuPlayerRole.Proof.Sync.CleanPlayer

namespace OsuPlayerRole.Sync

open Resumption Program RoleLogic KeyedTable

section Client

variable {handling : Nat → Handled} {crates : Crates} {link : Link} {token : String}

/-- The answers of RoleLogic do not depend on the list. -/
theorem run_handle_answer {A : Type} (call : Calls A) (first second : Server) (count : Nat) :
    (run (handle handling) (first, count) call).1 = (run (handle handling) (second, count) call).1 := by
  induction call generalizing first second count with
  | done value => rfl
  | fail error => rfl
  | call request next ih => exact ih _ _ _ _

/-- A program without requests leaves the server alone. -/
theorem run_silent {A : Type} {call : Calls A} (silent : call.Only fun _ => False) (served : Server × Nat) :
    (run (handle handling) served call).2 = served := by
  cases call with
  | done value => rfl
  | fail error => rfl
  | call request next => exact silent.1.elim

/-- The reading of a body sends no request. -/
theorem json_silent {A : Type} {response : Response} {error : AppError} {rest : Json.Value → Calls A}
    (silent : ∀ body, (rest body).Only fun _ => False) :
    (json response error >>= rest).Only fun _ => False := by
  refine only_bind ?_ silent
  unfold json
  split
  · split <;> trivial
  · trivial

/-- A call of one request has the effect of the request, when RoleLogic applies it. -/
theorem run_one_request {A : Type} {call : Call} {rest : Response → Calls A}
    (silent : ∀ response, (rest response).Only fun _ => False) (server : Server) :
    (run (handle handling) (server, 0) (Program.ask ⟨link, token, call⟩ >>= rest)).2.1 =
      if (handling 0).applied then server.apply call else server := by
  have served : (handle handling (server, 0) ⟨link, token, call⟩).2.1 =
      if (handling 0).applied then server.apply call else server := rfl
  rw [run_bind, run_ask]
  generalize handle handling (server, 0) ⟨link, token, call⟩ = replied at served ⊢
  obtain ⟨answer, after⟩ := replied
  cases answer with
  | ok response => exact (congrArg Prod.fst (run_silent (silent response) after)).trans served
  | error error => exact served

/-- The request adds the member exactly when the server applies it. -/
theorem addUser_served (discordId : DiscordId) (server : Server) :
    (run (handle handling) (server, 0) (addUser crates link token discordId)).2.1 =
      if (handling 0).applied then server.apply (.postUser discordId) else server := by
  unfold addUser
  refine run_one_request (fun _ => json_silent fun _ => ?_) server
  trivial

/-- The request removes the member exactly when the server applies it. -/
theorem removeUser_served (discordId : DiscordId) (server : Server) :
    (run (handle handling) (server, 0) (removeUser crates link token discordId)).2.1 =
      if (handling 0).applied then server.apply (.deleteUser discordId) else server := by
  unfold removeUser
  refine run_one_request (fun _ => json_silent fun _ => ?_) server
  trivial

end Client

section Action

variable (crates : Crates) (script : Script) (discordId : DiscordId)

/-- RoleLogic may apply the request of an action, whatever it answers. -/
def requested (action : Action) (view : View) : View :=
  if (script.actions action.link).applied then
    { view with users := adjust discordId action.adds view.users }
  else view

/-- What an action makes of its link. The mirror follows an answer of RoleLogic, and a link that
RoleLogic does not know is deleted. Either statement may fail. -/
def settle (action : Action) (view : View) : View :=
  let called := requested script discordId action view
  match (script.actions action.link).failure with
  | some _ => called
  | none =>
      match action.reply crates discordId (script.actions action.link) with
      | .ok _ => { called with ids := adjust discordId action.adds view.ids }
      | .error error =>
          if error = .roleLinkNotFound then { called with ids := ∅, stored := false } else called

variable {crates script discordId} {engines : Engines} {world : World} {link : Link} {token : String}

/-- A request moves the list of its link alone. -/
theorem called_becomes (world : World) (link : Link) (users : Finset DiscordId) :
    Becomes link { world.view link with users } world
      { world with remote := Function.update world.remote link users } :=
  ⟨rfl, (Function.update_eq_self link world.tables.roleAssignments).symm, (rows_kept world link).symm,
    ⟨rfl, rfl, rfl, rfl, rfl, rfl, rfl, rfl, rfl, rfl⟩⟩

/-- The statement that writes the mirror of a stored link. -/
theorem written_becomes {turn : Turn} {change : Finset DiscordId → Finset DiscordId}
    (stored : (world.view link).stored = true) :
    Becomes link
      (match turn.failure with
        | none => { world.view link with ids := change (world.view link).ids }
        | some _ => world.view link) world
      (match turn.failure with
        | some error => (Except.error error, world)
        | none => executed world
            (world.tables.setAssignments link (change (world.tables.roleAssignments link)))).2 := by
  cases turn.failure with
  | some error => exact becomes_self world link
  | none =>
      obtain ⟨tables, set, becomes⟩ := @set_accepted link world (change (world.view link).ids) fun _ => stored
      dsimp only
      rw [show world.tables.setAssignments link (change (world.tables.roleAssignments link)) =
        .ok tables from set]
      exact becomes

/-- A served deletion leaves no row and no assignment of the link. -/
theorem deleted_becomes {turn : Turn} :
    Becomes link
      (match turn.failure with
        | none => { world.view link with ids := ∅, stored := false }
        | some _ => world.view link) world
      (match turn.failure with
        | some error => (Except.error error, world)
        | none => executed world (.ok (deleteRoleLink world.tables link))).2 := by
  cases turn.failure with
  | some error => exact becomes_self world link
  | none => exact deleteRoleLink_becomes world link

/-- A request leaves the mirror. -/
@[simp] theorem requested_ids (action : Action) (view : View) :
    (requested script discordId action view).ids = view.ids := by
  unfold requested
  split <;> rfl

/-- A request leaves the row of its link. -/
@[simp] theorem requested_stored (action : Action) (view : View) :
    (requested script discordId action view).stored = view.stored := by
  unfold requested
  split <;> rfl

section Settle

variable {action : Action} {view : View}

/-- A refused statement leaves the mirror behind the request. -/
theorem settle_unwritten {error : AppError} (failure : (script.actions action.link).failure = some error) :
    settle crates script discordId action view = requested script discordId action view := by
  unfold settle
  rw [failure]

/-- A successful call is recorded in the mirror. -/
theorem settle_ok {value : Bool} (failure : (script.actions action.link).failure = none)
    (reply : action.reply crates discordId (script.actions action.link) = .ok value) :
    settle crates script discordId action view =
      { requested script discordId action view with ids := adjust discordId action.adds view.ids } := by
  unfold settle
  rw [failure, reply]

/-- A link that is gone loses its row and its assignments. -/
theorem settle_gone (failure : (script.actions action.link).failure = none)
    (reply : action.reply crates discordId (script.actions action.link) = .error .roleLinkNotFound) :
    settle crates script discordId action view =
      { requested script discordId action view with ids := ∅, stored := false } := by
  unfold settle
  rw [failure, reply]
  exact if_pos rfl

/-- Any other failure is only logged. -/
theorem settle_failed {error : AppError}
    (reply : action.reply crates discordId (script.actions action.link) = .error error)
    (known : error ≠ .roleLinkNotFound) :
    settle crates script discordId action view = requested script discordId action view := by
  unfold settle
  rw [reply]
  cases (script.actions action.link).failure with
  | some other => rfl
  | none => exact if_neg known

/-- The list in RoleLogic follows the request alone. -/
theorem settle_users : (settle crates script discordId action view).users =
    if (script.actions action.link).applied then adjust discordId action.adds view.users else view.users := by
  have users : (requested script discordId action view).users =
      if (script.actions action.link).applied then adjust discordId action.adds view.users
      else view.users := by
    unfold requested
    split <;> rfl
  rw [← users]
  cases failure : (script.actions action.link).failure with
  | some error => rw [settle_unwritten failure]
  | none =>
      cases reply : action.reply crates discordId (script.actions action.link) with
      | ok value => rw [settle_ok failure reply]
      | error error =>
          by_cases absent : error = .roleLinkNotFound
          · subst absent
            rw [settle_gone failure reply]
          · rw [settle_failed reply absent]

end Settle

/-- The call of an action, and the statement that its answer asks for. -/
theorem settle_becomes {action : Action} {middle after : World}
    (stored : (world.view action.link).stored = true)
    (called : Becomes action.link (requested script discordId action (world.view action.link)) world middle)
    (wrote : ∀ value, action.reply crates discordId (script.actions action.link) = .ok value →
      after = (match (script.actions action.link).failure with
        | some error => (Except.error error, middle)
        | none => executed middle (middle.tables.setAssignments action.link
            (adjust discordId action.adds (middle.tables.roleAssignments action.link)))).2)
    (deleted : action.reply crates discordId (script.actions action.link) = .error .roleLinkNotFound →
      after = (match (script.actions action.link).failure with
        | some error => (Except.error error, middle)
        | none => executed middle (.ok (deleteRoleLink middle.tables action.link))).2)
    (stopped : ∀ error, action.reply crates discordId (script.actions action.link) = .error error →
      error ≠ .roleLinkNotFound → after = middle) :
    Becomes action.link (settle crates script discordId action (world.view action.link)) world after := by
  have kept : (requested script discordId action (world.view action.link)).stored = true :=
    (requested_stored action _).trans stored
  have view := becomes_view called fun _ => stored
  have present : (middle.view action.link).stored = true := view ▸ kept
  cases reply : action.reply crates discordId (script.actions action.link) with
  | ok value =>
      have written := @written_becomes middle action.link (script.actions action.link)
        (adjust discordId action.adds) present
      rw [← wrote value reply, view, requested_ids] at written
      cases failure : (script.actions action.link).failure with
      | none =>
          rw [failure] at written
          rw [settle_ok failure reply]
          exact becomes_trans called written fun _ => kept
      | some error =>
          rw [failure] at written
          rw [settle_unwritten failure]
          exact becomes_trans called written fun _ => kept
  | error error =>
      by_cases absent : error = .roleLinkNotFound
      · subst absent
        have dropped := @deleted_becomes middle action.link (script.actions action.link)
        rw [← deleted reply, view] at dropped
        cases failure : (script.actions action.link).failure with
        | none =>
            rw [failure] at dropped
            rw [settle_gone failure reply]
            exact becomes_trans called dropped nofun
        | some error =>
            rw [failure] at dropped
            rw [settle_unwritten failure]
            exact becomes_trans called dropped fun _ => kept
      · rw [settle_failed reply absent, stopped error reply absent]
        exact called

/-- The request of an action has its effect on the list. -/
theorem requested_becomes {action : Action} {users : Finset DiscordId}
    (same : users = if (script.actions action.link).applied then
      adjust discordId action.adds (world.remote action.link) else world.remote action.link) :
    Becomes action.link (requested script discordId action (world.view action.link)) world
      { world with remote := Function.update world.remote action.link users } := by
  have view : requested script discordId action (world.view action.link) =
      { world.view action.link with users } := by
    unfold requested
    rw [same]
    split <;> rfl
  rw [view]
  exact called_becomes world action.link users

/-- An action makes its link what it settles, and it changes nothing else. -/
theorem action_becomes (action : Action) (stored : (world.view action.link).stored = true) :
    Becomes action.link (settle crates script discordId action (world.view action.link)) world
      (run (acting engines crates script) world (performAction discordId action)).2 := by
  cases action with
  | add link token =>
      have served := @addUser_served (script.actions link).handling crates link token discordId
        ⟨world.remote link, []⟩
      have answer := @run_handle_answer (script.actions link).handling Bool
        (addUser crates link token discordId) ⟨world.remote link, []⟩ ⟨∅, []⟩ 0
      have becomes := @requested_becomes script discordId world (.add link token)
        (run (handle (script.actions link).handling) (⟨world.remote link, []⟩, 0)
          (addUser crates link token discordId)).2.1.users (by
            rw [served]
            exact apply_ite Server.users _ _ _)
      unfold performAction result
      rw [run_bind, run_result]
      dsimp only
      refine settle_becomes stored becomes (fun value reply => ?_) (fun reply => ?_)
        fun error reply known => ?_
      · rw [show (acting engines crates script world (.addUser link discordId token)).1 = .ok value from
          answer.trans reply]
        rfl
      · rw [show (acting engines crates script world (.addUser link discordId token)).1 =
          .error .roleLinkNotFound from answer.trans reply]
        rfl
      · rw [show (acting engines crates script world (.addUser link discordId token)).1 = .error error from
          answer.trans reply]
        cases error <;> first | rfl | exact absurd rfl known
  | remove link token =>
      have served := @removeUser_served (script.actions link).handling crates link token discordId
        ⟨world.remote link, []⟩
      have answer := @run_handle_answer (script.actions link).handling Bool
        (removeUser crates link token discordId) ⟨world.remote link, []⟩ ⟨∅, []⟩ 0
      have becomes := @requested_becomes script discordId world (.remove link token)
        (run (handle (script.actions link).handling) (⟨world.remote link, []⟩, 0)
          (removeUser crates link token discordId)).2.1.users (by
            rw [served]
            exact apply_ite Server.users _ _ _)
      unfold performAction result
      rw [run_bind, run_result]
      dsimp only
      refine settle_becomes stored becomes (fun value reply => ?_) (fun reply => ?_)
        fun error reply known => ?_
      · rw [show (acting engines crates script world (.removeUser link discordId token)).1 = .ok value from
          answer.trans reply]
        rfl
      · rw [show (acting engines crates script world (.removeUser link discordId token)).1 =
          .error .roleLinkNotFound from answer.trans reply]
        rfl
      · rw [show (acting engines crates script world (.removeUser link discordId token)).1 = .error error from
          answer.trans reply]
        cases error <;> first | rfl | exact absurd rfl known

/-- No action brings a link back. -/
theorem settle_stored {action : Action} {view : View}
    (stored : (settle crates script discordId action view).stored = true) : view.stored = true := by
  have kept : (requested script discordId action view).stored = true → view.stored = true :=
    fun present => (requested_stored action view).symm.trans present
  unfold settle at stored
  dsimp only at stored
  split at stored
  · exact kept stored
  · split at stored
    · exact kept stored
    · split at stored
      · cases stored
      · exact kept stored

/-- The job of each action changes its own link alone. -/
theorem inTurn_views {actions : List Action} (distinct : (actions.map Action.link).Nodup)
    (stored : ∀ action ∈ actions, (world.view action.link).stored = true) :
    (∀ link, (∀ action ∈ actions, action.link ≠ link) →
        (inTurn (acting engines crates script) world (actions.map (performAction discordId))).view link =
          world.view link) ∧
      ∀ action ∈ actions,
        (inTurn (acting engines crates script) world (actions.map (performAction discordId))).view
          action.link = settle crates script discordId action (world.view action.link) := by
  induction actions generalizing world with
  | nil => exact ⟨fun _ _ => rfl, fun action inside => absurd inside List.not_mem_nil⟩
  | cons first rest ih =>
      obtain ⟨unlike, others⟩ := List.nodup_cons.mp distinct
      have different : ∀ action ∈ rest, action.link ≠ first.link :=
        fun action inside same => unlike (List.mem_map.mpr ⟨action, inside, same⟩)
      have becomes := @action_becomes crates script discordId engines world first
        (stored first List.mem_cons_self)
      have seen : ∀ link, link ≠ first.link → (run (acting engines crates script) world
          (performAction discordId first)).2.view link = world.view link :=
        fun link apart => becomes_other becomes apart
      obtain ⟨spared, reached⟩ := @ih (run (acting engines crates script) world
        (performAction discordId first)).2 others fun action inside => by
          rw [seen _ (different action inside)]
          exact stored action (List.mem_cons_of_mem _ inside)
      refine ⟨fun link untouched => ?_, fun action inside => ?_⟩
      · refine (spared link fun action inside => untouched action (List.mem_cons_of_mem _ inside)).trans ?_
        exact seen link (Ne.symm (untouched first List.mem_cons_self))
      · rcases List.mem_cons.mp inside with rfl | later
        · refine (spared action.link different).trans ?_
          exact becomes_view becomes fun present => settle_stored present
        · refine (reached action later).trans ?_
          rw [seen _ (different action later)]

/-- An action is about its own link alone. -/
theorem performAction_only (action : Action) :
    (performAction discordId action).Only fun operation => operation.link? = some action.link := by
  cases action with
  | add link token =>
      refine only_bind (only_result rfl) fun answer => ?_
      split
      · exact only_bind (only_result rfl) fun _ => trivial
      · trivial
      · exact only_bind (only_result rfl) fun _ => trivial
  | remove link token =>
      refine only_bind (only_result rfl) fun answer => ?_
      split
      · exact only_bind (only_result rfl) fun _ => trivial
      · trivial
      · exact only_bind (only_result rfl) fun _ => trivial

/-- Actions for different links are apart. -/
theorem actions_apart {actions : List Action} (distinct : (actions.map Action.link).Nodup) :
    (actions.map (performAction discordId)).Pairwise (Apart (acting engines crates script)) := by
  rw [List.Nodup, List.pairwise_map] at distinct
  rw [List.pairwise_map]
  refine distinct.imp fun {first second} different => ?_
  exact ⟨_, _, performAction_only first, performAction_only second,
    fun _ _ left right => acting_interchange different left right⟩

/-- An action begins with a request. -/
theorem performAction_waits (action : Action) : (performAction discordId action).finished = false := by
  cases action <;> rfl

/-- Different actions are different programs. -/
theorem performAction_injective : Function.Injective (performAction discordId) := by
  intro first second same
  have asked := congrArg Program.head? same
  cases first <;> cases second <;> cases asked <;> rfl

end Action

section Reads

variable {engines : Engines} {crates : Crates} {turns : Nat → Turn} {world : World} {history : History}
  {discordId : DiscordId}

/-- The answers of the reads have one error, and it ends them. -/
def FailsWith (history : History) (error : AppError) : Prop :=
  (∃ operation, (⟨operation, .error error⟩ : Performed _ _ _) ∈ history) ∧
    ∀ operation other, (⟨operation, .error other⟩ : Performed _ _ _) ∈ history → other = error

def Succeeds (history : History) : Prop := ∀ performed ∈ history, ∃ value, performed.2 = .ok value

/-- An earlier success does not hide a failure. -/
theorem failsWith_cons {operation : SyncOp} {value : operation.Value} {error : AppError}
    (fails : FailsWith history error) : FailsWith (⟨operation, .ok value⟩ :: history) error := by
  obtain ⟨⟨failed, inside⟩, only⟩ := fails
  refine ⟨⟨failed, List.mem_cons_of_mem _ inside⟩, fun other another member => ?_⟩
  rcases List.mem_cons.mp member with same | later
  · cases same
  · exact only other another later

/-- The failed operation is the last one. -/
theorem failsWith_last (operation : SyncOp) (error : AppError) :
    FailsWith [⟨operation, .error error⟩] error := by
  refine ⟨⟨operation, List.mem_cons_self⟩, fun other another member => ?_⟩
  cases List.mem_singleton.mp member
  rfl

/-- A program of reads that returns every error either meets one, and then it ends with it, or it finds
what it looks for. -/
theorem recording_reads {A Status : Type} {protocol : Protocol SyncOp SyncOp.Value AppError Status}
    {post : Except AppError A → Status → Prop} {program : SyncProgram A} {status : Status}
    (strict : program.Strict) (follows : Follows protocol post status program)
    (reading : ∀ status operation, protocol.allowed status operation → operation.reads = true)
    (possible : ∀ status operation value, (perform engines world operation).1 = .ok value →
      protocol.possible status operation (.ok value)) :
    ∃ answer more, run (recording engines crates turns) (world, history) program =
        (answer, world, history ++ more) ∧
      ((∃ error, answer = .error error ∧ FailsWith more error) ∨
        Succeeds more ∧ ∃ last, post answer last) := by
  induction program generalizing status history with
  | done value =>
      refine ⟨_, [], by rw [List.append_nil]; rfl, Or.inr ⟨?_, status, follows⟩⟩
      exact fun performed impossible => absurd impossible List.not_mem_nil
  | fail error =>
      refine ⟨_, [], by rw [List.append_nil]; rfl, Or.inr ⟨?_, status, follows⟩⟩
      exact fun performed impossible => absurd impossible List.not_mem_nil
  | call operation next ih =>
      obtain ⟨same, found⟩ := @attempted_read engines crates (turns history.length) world operation
        (reading status operation follows.1)
      have step : recording engines crates turns (world, history) operation =
          ((attempted engines crates (turns history.length) world operation).1, world,
            history ++ [⟨operation, (attempted engines crates (turns history.length) world operation).1⟩]) := by
        unfold recording
        dsimp only
        rw [same]
      rw [run_call, step]
      dsimp only
      cases answered : (attempted engines crates (turns history.length) world operation).1 with
      | error error =>
          rw [strict.1 error]
          exact ⟨_, _, rfl, Or.inl ⟨error, rfl, failsWith_last operation error⟩⟩
      | ok value =>
          have continued := follows.2 _ (possible status operation value (found value answered))
          obtain ⟨answer, more, ran, outcome⟩ := ih (.ok value) (strict.2 value) continued
          refine ⟨answer, ⟨operation, .ok value⟩ :: more, ?_, ?_⟩
          · rw [ran, List.append_assoc]
            rfl
          · rcases outcome with ⟨error, ended, fails⟩ | ⟨succeeded, reached⟩
            · exact Or.inl ⟨error, ended, failsWith_cons fails⟩
            · exact Or.inr ⟨List.forall_mem_cons.mpr ⟨⟨value, rfl⟩, succeeded⟩, reached⟩

/-- The verdict lets every error through. -/
theorem qualifies_strict (isLinked : Bool) (tree : RuleTree) :
    (qualifies engines discordId isLinked tree).Strict := by
  unfold qualifies
  split
  · trivial
  · split
    · trivial
    · refine strict_bind (strict_ask _) fun found => ?_
      cases found with
      | none => trivial
      | some row => exact strict_bind (strict_ask _) fun now => trivial

/-- The plan lets every error through. -/
theorem planActions_strict (isLinked : Bool) (existing : Finset Link) (rows : List LinkRow) :
    (planActions engines discordId isLinked existing rows).Strict := by
  induction rows with
  | nil => trivial
  | cons row rest ih =>
      refine strict_bind (qualifies_strict _ _) fun qualified => strict_bind ih fun actions => ?_
      split <;> trivial

/-- The reads of the job let every error through. -/
theorem syncForPlayer_strict : (syncForPlayer engines discordId).Strict := by
  refine strict_bind (strict_ask _) fun guildIds => ?_
  split
  · trivial
  · refine strict_bind (strict_ask _) fun roleLinks => ?_
    split
    · trivial
    · refine strict_bind (strict_ask _) fun isLinked => strict_bind (strict_ask _) fun existing => ?_
      exact planActions_strict isLinked existing roleLinks

/-- The reads of a player job fail, or they decide the wanted actions. -/
theorem playerReads_cases (script : Script) :
    ∃ answer performed, playerReads engines crates script world discordId = (answer, world, performed) ∧
      ((∃ error, answer = .error error ∧ FailsWith performed error) ∨
        Succeeds performed ∧ answer = .ok (wanted engines discordId world) ∧
          ∀ row ∈ linksOf discordId world, Legible engines discordId world row) := by
  have follows := @syncForPlayer_reads engines discordId world {world} fun other same => by
    rw [Set.mem_singleton_iff.mp same]
    exact ⟨rfl, rfl⟩
  obtain ⟨answer, more, ran, outcome⟩ := @recording_reads engines crates script.reads world []
    (List Action) Bool _ _ _ _ syncForPlayer_strict follows
    (fun entered operation allowed => by
      unfold SyncOp.reads
      rw [part_of_entered allowed.1])
    fun entered operation value found => ⟨⟨world, rfl, found⟩, value, rfl⟩
  refine ⟨answer, more, ran, outcome.imp_right ?_⟩
  rintro ⟨succeeded, _, actions, rfl, others, same, _, decided, _⟩
  have equal : actions = others :=
    List.map_injective_iff.mpr performAction_injective (Except.ok.inj same)
  obtain ⟨planned, legible⟩ := decided world frozen_self
  rw [equal, planned]
  exact ⟨succeeded, rfl, legible⟩

end Reads

section Outcome

variable (engines : Engines) (crates : Crates) (script : Script) (world : World) (discordId : DiscordId)

/-- The mirror of a link of the reported guilds differs from the verdict. -/
def Differs (row : RoleLink) : Prop :=
  row ∈ linksOf discordId world ∧
    decide (discordId ∈ world.tables.roleAssignments row.link) ≠ meets engines discordId world row

/-- The answer of RoleLogic to the call that the verdict asks for. -/
def replyTo (row : RoleLink) : Except AppError Bool :=
  match meets engines discordId world row with
  | true => (Action.add row.link row.apiToken).reply crates discordId (script.actions row.link)
  | false => (Action.remove row.link row.apiToken).reply crates discordId (script.actions row.link)

/-- What becomes of a link whose mirror differs from the verdict. -/
structure Corrected (row : RoleLink) (after : World) : Prop where
  remote : after.remote row.link =
    if (script.actions row.link).applied then
      adjust discordId (meets engines discordId world row) (world.remote row.link)
    else world.remote row.link
  tells : Tells (script.actions row.link).applied (replyTo engines crates script world discordId row)
  written : ∀ value, replyTo engines crates script world discordId row = .ok value →
    (script.actions row.link).failure = none →
      after.tables.roleAssignments row.link =
          adjust discordId (meets engines discordId world row) (world.tables.roleAssignments row.link) ∧
        after.tables.roleLinks.find row.link = some row
  gone : replyTo engines crates script world discordId row = .error .roleLinkNotFound →
    (script.actions row.link).failure = none →
      after.tables.roleAssignments row.link = ∅ ∧ after.tables.roleLinks.find row.link = none
  unwritten : ∀ error, (script.actions row.link).failure = some error →
    after.tables.roleAssignments row.link = world.tables.roleAssignments row.link ∧
      after.tables.roleLinks.find row.link = some row
  refused : ∀ error, replyTo engines crates script world discordId row = .error error →
    error ≠ .roleLinkNotFound →
      after.tables.roleAssignments row.link = world.tables.roleAssignments row.link ∧
        after.tables.roleLinks.find row.link = some row

/-- What the player job leaves behind when its reads succeed. -/
structure PlayerOutcome (after : World) : Prop where
  legible : ∀ row ∈ linksOf discordId world, Legible engines discordId world row
  rest : KeepsRest world after
  spared : ∀ link, (∀ row, Differs engines world discordId row → row.link ≠ link) →
    after.remote link = world.remote link ∧
      after.tables.roleAssignments link = world.tables.roleAssignments link ∧
      after.tables.roleLinks.find link = world.tables.roleLinks.find link
  corrected : ∀ row, Differs engines world discordId row →
    Corrected engines crates script world discordId row after

/-- The world after the actions of the verdicts, in the order of the plan. -/
def settledWorld : World :=
  inTurn (acting engines crates script) world
    ((wanted engines discordId world).map (performAction discordId))

variable {engines crates script world discordId} {row : RoleLink} {action : Action} {after : World}

/-- Each difference has its correcting action. -/
theorem correction_of_differs (differs : Differs engines world discordId row) :
    ∃ action, action ∈ wanted engines discordId world ∧
      correction engines discordId world row = some action := by
  cases corrected : correction engines discordId world row with
  | none => exact absurd (correctionOf_none corrected) differs.2
  | some action => exact ⟨action, List.mem_filterMap.mpr ⟨row, differs.1, corrected⟩, rfl⟩

/-- Each wanted action corrects a difference. -/
theorem differs_of_wanted (chosen : action ∈ wanted engines discordId world) :
    ∃ row, Differs engines world discordId row ∧ correction engines discordId world row = some action := by
  obtain ⟨row, inside, corrected⟩ := List.mem_filterMap.mp chosen
  exact ⟨row, ⟨inside, (correctionOf_some corrected).2.2⟩, corrected⟩

/-- The reply to a link is the reply to its action. -/
theorem replyTo_correction (corrected : correction engines discordId world row = some action) :
    replyTo engines crates script world discordId row =
      action.reply crates discordId (script.actions row.link) := by
  unfold correction at corrected
  unfold replyTo
  cases verdict : meets engines discordId world row <;> rw [verdict] at corrected <;>
    cases assigned : decide (discordId ∈ world.tables.roleAssignments row.link) <;>
    rw [assigned] at corrected <;> cases corrected <;> rfl

/-- The answer of an action tells whether its request was applied. -/
theorem reply_tells (turn : Turn) : Tells turn.applied (action.reply crates discordId turn) := by
  cases action with
  | add link token => exact @addUser_tells turn.handling (⟨∅, []⟩, 0) crates link token discordId
  | remove link token => exact @removeUser_tells turn.handling (⟨∅, []⟩, 0) crates link token discordId

/-- The wanted actions keep the order of the links. -/
theorem wanted_links : ((wanted engines discordId world).map Action.link).Sublist
    ((linksOf discordId world).map RoleLink.link) := by
  unfold wanted
  induction linksOf discordId world with
  | nil => exact List.Sublist.slnil
  | cons row rest ih =>
      cases corrected : correction engines discordId world row with
      | none =>
          rw [List.filterMap_cons_none corrected]
          exact ih.cons _
      | some action =>
          rw [List.filterMap_cons_some corrected, List.map_cons, List.map_cons,
            (correctionOf_some corrected).1]
          exact ih.cons_cons _

/-- Each link has one action at most. -/
theorem wanted_nodup : ((wanted engines discordId world).map Action.link).Nodup :=
  links_nodup.sublist wanted_links

/-- The link of a wanted action is stored. -/
theorem wanted_stored (chosen : action ∈ wanted engines discordId world) :
    (world.view action.link).stored = true := by
  obtain ⟨row, differs, corrected⟩ := differs_of_wanted chosen
  refine (stored_iff world action.link).mpr ⟨row, (List.mem_filter.mp differs.1).1, ?_⟩
  exact (correctionOf_some corrected).1.symm

/-- The actions delete links at most, and change nothing but the links and their lists. -/
theorem inTurn_keeps {actions : List Action} (distinct : (actions.map Action.link).Nodup)
    (stored : ∀ action ∈ actions, (world.view action.link).stored = true) :
    KeepsRest world
        (inTurn (acting engines crates script) world (actions.map (performAction discordId))) ∧
      (inTurn (acting engines crates script) world
        (actions.map (performAction discordId))).tables.roleLinks.rows.Sublist
          world.tables.roleLinks.rows := by
  induction actions generalizing world with
  | nil => exact ⟨.refl world, List.Sublist.refl _⟩
  | cons first rest ih =>
      obtain ⟨unlike, others⟩ := List.nodup_cons.mp distinct
      have becomes := @action_becomes crates script discordId engines world first
        (stored first List.mem_cons_self)
      obtain ⟨kept, fewer⟩ := @ih (run (acting engines crates script) world
        (performAction discordId first)).2 others fun action inside => by
          have different : action.link ≠ first.link :=
            fun same => unlike (List.mem_map.mpr ⟨action, inside, same⟩)
          rw [becomes_other becomes different]
          exact stored action (List.mem_cons_of_mem _ inside)
      refine ⟨becomes.rest.trans kept, fewer.trans ?_⟩
      rw [becomes.links]
      exact List.filter_sublist

/-- A row that is left is the row that was there. -/
theorem find_of_sublist {link : Link}
    (fewer : after.tables.roleLinks.rows.Sublist world.tables.roleLinks.rows)
    (same : (after.view link).stored = (world.view link).stored) :
    after.tables.roleLinks.find link = world.tables.roleLinks.find link := by
  cases found : after.tables.roleLinks.find link with
  | none =>
      have absent : (world.tables.roleLinks.find link).isSome = false :=
        same.symm.trans (congrArg Option.isSome found)
      exact (Option.isNone_iff_eq_none.mp (Option.isSome_eq_false_iff.mp absent)).symm
  | some row =>
      obtain ⟨inside, named⟩ := Table.find_eq_some.mp found
      exact (Table.find_eq_some.mpr ⟨fewer.subset inside, named⟩).symm

/-- A view that an action settles is a correction of its link. -/
theorem corrected_of_settled (differs : Differs engines world discordId row)
    (corrected : correction engines discordId world row = some action)
    (fewer : after.tables.roleLinks.rows.Sublist world.tables.roleLinks.rows)
    (settled : after.view action.link =
      settle crates script discordId action (world.view action.link)) :
    Corrected engines crates script world discordId row after := by
  obtain ⟨link, adds, _⟩ := correctionOf_some corrected
  have reply := @replyTo_correction engines crates script world discordId row action corrected
  have stored : world.tables.roleLinks.find row.link = some row :=
    Table.find_eq_some.mpr ⟨(List.mem_filter.mp differs.1).1, rfl⟩
  have present : (world.view row.link).stored = true := congrArg Option.isSome stored
  have users : (after.view row.link).users = _ := (congrArg View.users (link ▸ settled)).trans settle_users
  rw [link, adds] at users
  have still (unwritten : settle crates script discordId action (world.view row.link) =
      requested script discordId action (world.view row.link)) :
      after.tables.roleAssignments row.link = world.tables.roleAssignments row.link ∧
        after.tables.roleLinks.find row.link = some row := by
    have view : after.view row.link = _ := (link ▸ settled).trans unwritten
    refine ⟨(congrArg View.ids view).trans (requested_ids action _), ?_⟩
    have same := (congrArg View.stored view).trans (requested_stored action _)
    exact (find_of_sublist fewer same).trans stored
  refine ⟨users, reply ▸ reply_tells _, fun value success wrote => ?_, fun absent wrote => ?_,
    fun error failed => still ?_, fun error refused known => still ?_⟩
  · have view := (link ▸ settled).trans (settle_ok (link.symm ▸ wrote) (link.symm ▸ reply ▸ success))
    rw [adds] at view
    refine ⟨congrArg View.ids view, ?_⟩
    have same := (congrArg View.stored view).trans (requested_stored action _)
    exact (find_of_sublist fewer same).trans stored
  · have view := (link ▸ settled).trans (settle_gone (link.symm ▸ wrote) (link.symm ▸ reply ▸ absent))
    refine ⟨congrArg View.ids view, ?_⟩
    have none : (after.tables.roleLinks.find row.link).isSome = false := congrArg View.stored view
    exact Option.isNone_iff_eq_none.mp (Option.isSome_eq_false_iff.mp none)
  · exact settle_unwritten (link.symm ▸ failed)
  · exact settle_failed (link.symm ▸ reply ▸ refused) known

/-- The actions have their outcome in every order. -/
theorem actions_outcome (legible : ∀ row ∈ linksOf discordId world, Legible engines discordId world row) :
    PlayerOutcome engines crates script world discordId
      (settledWorld engines crates script world discordId) := by
  have stored : ∀ action ∈ wanted engines discordId world, (world.view action.link).stored = true :=
    fun action chosen => wanted_stored chosen
  obtain ⟨rest, fewer⟩ := @inTurn_keeps engines crates script world discordId _ wanted_nodup stored
  obtain ⟨spared, settled⟩ := @inTurn_views crates script discordId engines world _ wanted_nodup stored
  refine ⟨legible, rest, fun link untouched => ?_, fun row differs => ?_⟩
  · have view := spared link fun action chosen => by
      obtain ⟨row, differs, corrected⟩ := differs_of_wanted chosen
      rw [(correctionOf_some corrected).1]
      exact untouched row differs
    exact ⟨congrArg View.users view, congrArg View.ids view,
      find_of_sublist fewer (congrArg View.stored view)⟩
  · obtain ⟨action, chosen, corrected⟩ := correction_of_differs differs
    exact corrected_of_settled differs corrected fewer (settled action chosen)

section Runs

variable {performed : History} {schedule : List Nat} {result : Except AppError Unit × World}

/-- A failed read ends the job before any action. -/
theorem syncPlayer_failed {error : AppError}
    (reads : playerReads engines crates script world discordId = (.error error, world, performed)) :
    syncPlayer engines crates script world discordId schedule =
      if schedule.isEmpty then some (.error error, world) else none := by
  unfold syncPlayer
  rw [reads]

/-- The wanted actions begin with a request. -/
theorem wanted_waiting : ∀ program ∈ (wanted engines discordId world).map (performAction discordId),
    program.finished = false := by
  intro program inside
  obtain ⟨action, _, rfl⟩ := List.mem_map.mp inside
  exact performAction_waits action

/-- The pool starts one thread for each action. -/
theorem wanted_threads : (wanted engines discordId world).map
    (fun action => (Thread.branch 0 (performAction discordId action) : SyncThread)) =
      ((wanted engines discordId world).map (performAction discordId)).map (Thread.branch 0) :=
  (@List.map_map _ _ _ (Thread.branch 0) (performAction discordId) _).symm

/-- Every schedule ends in the world of the plan. -/
theorem syncPlayer_settled
    (reads : playerReads engines crates script world discordId =
      (.ok (wanted engines discordId world), world, performed))
    (ran : syncPlayer engines crates script world discordId schedule = some result) :
    result = (.ok (), settledWorld engines crates script world discordId) := by
  unfold syncPlayer at ran
  rw [reads] at ran
  obtain ⟨⟨after, threads⟩, finished, last⟩ := Option.bind_eq_some_iff.mp ran
  dsimp only at last
  split at last
  · next empty =>
      obtain rfl := List.isEmpty_iff.mp empty
      rw [wanted_threads] at finished
      have settled := interleaved_inTurn wanted_waiting (actions_apart wanted_nodup) finished
      rw [← Option.some.inj last, settled]
      rfl
  · cases last

/-- Some schedule performs all of the actions. -/
theorem syncPlayer_completes
    (reads : playerReads engines crates script world discordId =
      (.ok (wanted engines discordId world), world, performed)) :
    ∃ schedule, syncPlayer engines crates script world discordId schedule =
      some (.ok (), settledWorld engines crates script world discordId) := by
  obtain ⟨schedule, finished⟩ := @interleave_completes _ _ _ _ (acting engines crates script)
    actionConcurrency (by decide) 0 _ wanted_waiting world
  rw [← wanted_threads] at finished
  refine ⟨schedule, ?_⟩
  unfold syncPlayer
  rw [reads]
  exact Option.bind_eq_some_iff.mpr ⟨_, finished, rfl⟩

end Runs

/-- A player job that fails to read changes nothing. Otherwise it ends in one world, whichever order its
actions take and whatever their calls and statements answer: only the links whose mirrors differ from the
verdicts change, by this player alone, or they are deleted when RoleLogic does not know them. -/
theorem player_job_outcome (engines : Engines) (crates : Crates) (script : Script) (world : World)
    (discordId : DiscordId) :
    (∃ schedule result, syncPlayer engines crates script world discordId schedule = some result) ∧
      ∀ schedule result, syncPlayer engines crates script world discordId schedule = some result →
        (∀ other another, syncPlayer engines crates script world discordId other = some another →
          another = result) ∧
        ((∃ error, FailsWith (playerReads engines crates script world discordId).2.2 error ∧
            result = (.error error, world)) ∨
          Succeeds (playerReads engines crates script world discordId).2.2 ∧ result.1 = .ok () ∧
            PlayerOutcome engines crates script world discordId result.2) := by
  obtain ⟨answer, performed, reads, ⟨error, rfl, fails⟩ | ⟨succeeded, rfl, legible⟩⟩ :=
    @playerReads_cases engines crates world discordId script
  · have ended {schedule : List Nat} {result : Except AppError Unit × World}
        (ran : syncPlayer engines crates script world discordId schedule = some result) :
        result = (.error error, world) := by
      rw [syncPlayer_failed reads] at ran
      split at ran
      · exact (Option.some.inj ran).symm
      · cases ran
    refine ⟨⟨[], (.error error, world), syncPlayer_failed reads⟩, fun schedule result ran =>
      ⟨fun other another finished => (ended finished).trans (ended ran).symm,
        Or.inl ⟨error, ?_, ended ran⟩⟩⟩
    rw [reads]
    exact fails
  · obtain ⟨first, completed⟩ := syncPlayer_completes reads
    refine ⟨⟨first, _, completed⟩, fun schedule result ran => ?_⟩
    have ended := syncPlayer_settled reads ran
    refine ⟨fun other another finished => (syncPlayer_settled reads finished).trans ended.symm,
      Or.inr ⟨?_, ?_, ?_⟩⟩
    · rw [reads]
      exact succeeded
    · rw [ended]
    · rw [ended]
      exact actions_outcome legible

end Outcome

end OsuPlayerRole.Sync
