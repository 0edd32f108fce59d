/-
This file gives runs of one synchronization job in which every operation may fail.
-/
import OsuPlayerRole.Construction.Services.RoleLogic
import OsuPlayerRole.Construction.Tasks.SyncSystem

namespace OsuPlayerRole.Sync

open Resumption Program

/-- This decides one operation. A statement, a read, or a request to the gateway may fail, and it has
no effect then. A RoleLogic call is a sequence of requests. -/
structure Turn where
  failure : Option AppError
  handling : Nat → RoleLogic.Handled

/-- The client makes its requests, and they change the list of the link. -/
def called {A : Type} (turn : Turn) (world : World) (link : Link) (call : RoleLogic.Calls A) :
    Except AppError A × World :=
  let (answer, served) := run (RoleLogic.handle turn.handling) (⟨world.remote link, []⟩, 0) call
  (answer, { world with remote := Function.update world.remote link served.1.users })

section Attempt

variable (engines : Engines) (crates : RoleLogic.Crates)

def attempted (turn : Turn) (world : World) :
    (operation : SyncOp) → Except AppError operation.Value × World
  | .getUserInfo link token => called turn world link (RoleLogic.getUserInfo crates link token)
  | .addUser link discordId token =>
      called turn world link (RoleLogic.addUser crates link token discordId)
  | .removeUser link discordId token =>
      called turn world link (RoleLogic.removeUser crates link token discordId)
  | .uploadUsers link ids token =>
      called turn world link (RoleLogic.uploadUsers crates link token ids)
  | operation =>
      match turn.failure with
      | some error => (.error error, world)
      | none => perform engines world operation

/-- The answers of a job, in their order. -/
abbrev History := List (Performed SyncOp SyncOp.Value AppError)

/-- The operations take their turns in order, and their answers are kept. -/
def recording (turns : Nat → Turn) (state : World × History) (operation : SyncOp) :
    Except AppError operation.Value × World × History :=
  let answered := attempted engines crates (turns state.2.length) state.1 operation
  (answered.1, answered.2, state.2 ++ [⟨operation, answered.1⟩])

/-- The reads of a player job take their turns in order. The call and the statement of an action take
the turn of its link. -/
structure Script where
  reads : Nat → Turn
  actions : Link → Turn

def SyncOp.link? (operation : SyncOp) : Option Link :=
  match operation.part with
  | .roleLogic link _ => some link
  | .mirror link _ => some link
  | .orphan link => some link
  | .other => none

/-- Every operation of an action has a link. -/
def Script.turnOf (script : Script) (operation : SyncOp) : Turn :=
  match operation.link? with
  | some link => script.actions link
  | none => script.reads 0

/-- The operations of the actions. -/
def acting (script : Script) (world : World) (operation : SyncOp) :
    Except AppError operation.Value × World :=
  attempted engines crates (script.turnOf operation) world operation

variable (script : Script) (world : World) (discordId : DiscordId)

/-- The reads of the player job decide its actions. -/
def playerReads : Except AppError (List Action) × World × History :=
  run (recording engines crates script.reads) (world, []) (syncForPlayer engines discordId)

/-- The player job ends when its actions have run to their ends. The schedule says which action makes
the next step. A failed read ends the job before any action. -/
def syncPlayer (schedule : List Nat) : Option (Except AppError Unit × World) :=
  match playerReads engines crates script world discordId with
  | (.error error, after, _) => if schedule.isEmpty then some (.error error, after) else none
  | (.ok actions, after, _) =>
      (EventRun.run (interleave (acting engines crates script) actionConcurrency)
        (after, actions.map fun action => Thread.branch 0 (performAction discordId action))
        schedule).bind fun pool => if pool.2.isEmpty then some (.ok (), pool.1) else none

end Attempt

section Replies

variable (crates : RoleLogic.Crates) (discordId : DiscordId) (turn : Turn)

/-- The answer of the call of an action. It does not depend on the list of the link. -/
def Action.reply : Action → Except AppError Bool
  | .add link token =>
      (run (RoleLogic.handle turn.handling) (⟨∅, []⟩, 0)
        (RoleLogic.addUser crates link token discordId)).1
  | .remove link token =>
      (run (RoleLogic.handle turn.handling) (⟨∅, []⟩, 0)
        (RoleLogic.removeUser crates link token discordId)).1

/-- RoleLogic has applied the request of the action. -/
def Turn.applied : Bool := (turn.handling 0).applied

end Replies

end OsuPlayerRole.Sync
