/-
This file gives the reconcile worker.
-/
import OsuPlayerRole.Construction.Routes.OauthFlow
import OsuPlayerRole.Construction.Services.Jobs

namespace OsuPlayerRole.Reconcile

open Web Resumption Program

/-- Each operation is one statement. -/
inductive ReconcileOp where
  | gcOauthStates
  | gcDead
  | gcCompleted
  | selectRoleLinks
  | enqueueConfigSync (link : Link)

@[reducible] def ReconcileOp.Value : ReconcileOp → Type
  | .selectRoleLinks => List Link
  | _ => Unit

abbrev ReconcileProgram := Program ReconcileOp ReconcileOp.Value AppError

/-- The error of a statement is dropped. -/
def attempted (operation : ReconcileOp) : ReconcileProgram (Except AppError operation.Value) :=
  Program.result operation

def gc : ReconcileProgram Unit := do
  let _ ← attempted .gcOauthStates
  let _ ← attempted .gcDead
  let _ ← attempted .gcCompleted
  return ()

def enqueueAll : List Link → ReconcileProgram Unit
  | [] => return ()
  | link :: rest => do
      let _ ← attempted (.enqueueConfigSync link)
      enqueueAll rest

/-- This is one round of the loop. Without an answer there are no links. -/
def pass : ReconcileProgram Unit := do
  gc
  let links ← attempted .selectRoleLinks
  enqueueAll (links.toOption.getD [])

def perform (now : Timestamp) (tables : Tables) :
    (operation : ReconcileOp) → Except AppError operation.Value × Tables
  | .gcOauthStates => (.ok (), gcOauthStates now tables)
  | .gcDead => (.ok (), Jobs.gcDead now tables)
  | .gcCompleted => (.ok (), Jobs.gcCompleted now tables)
  | .selectRoleLinks => (.ok (tables.roleLinks.rows.map RoleLink.link), tables)
  | .enqueueConfigSync link => writing tables (tables.enqueueConfigSync now link)

/-- A refused statement has no effect. -/
def answer (refused : Option AppError) (now : Timestamp) (tables : Tables) (operation : ReconcileOp) :
    Except AppError operation.Value × Tables :=
  match refused with
  | some error => (.error error, tables)
  | none => perform now tables operation

/-- The worker performs its next statement. -/
def advance (refused : Option AppError) (now : Timestamp) (tables : Tables) :
    ReconcileProgram Unit → Option (ReconcileProgram Unit × Tables)
  | .call operation next =>
      let answered := answer refused now tables operation
      some (next answered.1, answered.2)
  | _ => none

end OsuPlayerRole.Reconcile
