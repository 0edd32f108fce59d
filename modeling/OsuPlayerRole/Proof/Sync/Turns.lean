/-
This file shows what one operation does when it may fail.
-/
import OsuPlayerRole.Construction.Tasks.FailingRuns
import OsuPlayerRole.Proof.Sync.RoleLogicCalls
import OsuPlayerRole.Proof.Sync.ServedWorld

namespace OsuPlayerRole.Sync

open Resumption Program RoleLogic

/-- A read asks the database, the gateway, or the clock. -/
def SyncOp.reads (operation : SyncOp) : Bool :=
  match operation.part with
  | .other => true
  | _ => false

/-- A call of RoleLogic. -/
def SyncOp.callsRoleLogic (operation : SyncOp) : Bool :=
  match operation.part with
  | .roleLogic _ _ => true
  | _ => false

variable {engines : Engines} {crates : Crates} {turn : Turn} {world : World} {link : Link}
  {token : String} {operation : SyncOp}

theorem part_of_reads (reads : operation.reads = true) : operation.part = .other := by
  cases operation <;> first | rfl | cases reads

/-- Every operation but a call fails without an effect. -/
theorem attempted_statement (own : operation.callsRoleLogic = false) :
    attempted engines crates turn world operation =
      match turn.failure with
      | some error => (.error error, world)
      | none => perform engines world operation := by
  cases operation <;> first | rfl | cases own

/-- Whatever a read answers without an error is what it finds. -/
theorem attempted_read (reads : operation.reads = true) :
    (attempted engines crates turn world operation).2 = world ∧
      ∀ value, (attempted engines crates turn world operation).1 = .ok value →
        (perform engines world operation).1 = .ok value := by
  have own : operation.callsRoleLogic = false := by
    unfold SyncOp.callsRoleLogic
    rw [part_of_reads reads]
  rw [attempted_statement own]
  cases turn.failure with
  | some error => exact ⟨rfl, fun _ => nofun⟩
  | none => exact ⟨perform_other (part_of_reads reads), fun _ found => found⟩

section Recording

variable {turns : Nat → Turn} {history : History} {A : Type}

end Recording

end OsuPlayerRole.Sync
