/-
This file gives the synchronization jobs down to the single requests of their RoleLogic calls.
-/
import OsuPlayerRole.Construction.Services.RoleLogic
import OsuPlayerRole.Construction.Services.Sync
import OsuPlayerRole.Library.Traces

namespace OsuPlayerRole.Sync

open Resumption Program

/-- A step is an operation of the job itself, or one request of its client. -/
inductive Step where
  | own (operation : SyncOp)
  | request (request : RoleLogic.Request)

@[reducible] def Step.Value : Step → Type
  | .own operation => operation.Value
  | .request _ => RoleLogic.Response

abbrev StepProgram := Program Step Step.Value AppError

/-- The steps of a job with their answers. -/
abbrev StepLog := List (Performed Step Step.Value AppError)

/-- A request without an answer fails with a message, and the links of the database are distinct. -/
def Step.Possible : (step : Step) → Except AppError step.Value → Prop
  | .request _, answer => ∀ error, answer = .error error → ∃ message, error = .roleLogic message
  | .own (.selectRoleLinks _), answer =>
      ∀ rows : List LinkRow, answer = .ok rows → (rows.map LinkRow.link).Nodup
  | .own _, _ => True

/-- A call sends its requests. -/
def sends {A : Type} (call : RoleLogic.Calls A) : StepProgram A :=
  call.expand fun request => Program.ask (.request request)

section Jobs

variable (engines : Engines) (crates : RoleLogic.Crates)

def SyncOp.steps : (operation : SyncOp) → StepProgram operation.Value
  | .getUserInfo link token => sends (RoleLogic.getUserInfo crates link token)
  | .addUser link discordId token => sends (RoleLogic.addUser crates link token discordId)
  | .removeUser link discordId token => sends (RoleLogic.removeUser crates link token discordId)
  | .uploadUsers link ids token => sends (RoleLogic.uploadUsers crates link token ids)
  | operation => Program.ask (Step.own operation)

/-- A finished run of the job of one link. -/
def LinkRan (link : Link) (log : StepLog) (result : Except AppError Unit) : Prop :=
  Ran Step.Possible ((syncForRoleLink link).expand (SyncOp.steps crates)) log result

/-- A finished run of the job of one player. A failed read ends it. Otherwise the runs of its actions are
merged, and it succeeds. -/
inductive PlayerRan (discordId : DiscordId) : StepLog → Except AppError Unit → Prop where
  | failed {log : StepLog} {error : AppError}
      (read : Ran Step.Possible ((syncForPlayer engines discordId).expand (SyncOp.steps crates)) log
        (.error error)) : PlayerRan discordId log (.error error)
  | acted {reads acted : StepLog} {actions : List Action} {logs : List StepLog}
      (read : Ran Step.Possible ((syncForPlayer engines discordId).expand (SyncOp.steps crates)) reads
        (.ok actions))
      (each : List.Forall₂ (fun action log => Ran Step.Possible
        ((performAction discordId action).expand (SyncOp.steps crates)) log (.ok ())) actions logs)
      (merged : Interleaves logs acted) : PlayerRan discordId (reads ++ acted) (.ok ())

end Jobs

end OsuPlayerRole.Sync
