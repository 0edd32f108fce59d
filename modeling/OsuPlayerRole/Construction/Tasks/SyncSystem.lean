/-
This file gives the synchronization jobs of all workers as one system of interleaved threads.
-/
import OsuPlayerRole.Construction.Routes.Plugin
import OsuPlayerRole.Construction.Services.SyncWorld
import OsuPlayerRole.Library.EventRun
import OsuPlayerRole.Library.ThreadPool

namespace OsuPlayerRole.Sync

open Resumption

/-- Each update changes the list of one link, in RoleLogic and later in the mirror. -/
inductive Update where
  | add (discordId : DiscordId)
  | remove (discordId : DiscordId)
  | replace (ids : Finset DiscordId)
  deriving DecidableEq

def Update.apply (ids : Finset DiscordId) : Update → Finset DiscordId
  | .add discordId => insert discordId ids
  | .remove discordId => ids.erase discordId
  | .replace others => others

/-- The part of an operation in the exchange between the database and RoleLogic. -/
inductive Part where
  | roleLogic (link : Link) (update : Option Update)
  | mirror (link : Link) (update : Update)
  | orphan (link : Link)
  | other

def SyncOp.part : SyncOp → Part
  | .getUserInfo link _ => .roleLogic link none
  | .addUser link discordId _ => .roleLogic link (some (.add discordId))
  | .removeUser link discordId _ => .roleLogic link (some (.remove discordId))
  | .uploadUsers link ids _ => .roleLogic link (some (.replace ids.toFinset))
  | .insertAssignment link discordId => .mirror link (.add discordId)
  | .deleteAssignment link discordId => .mirror link (.remove discordId)
  | .replaceAssignments link ids => .mirror link (.replace ids.toFinset)
  | .clearAssignments link => .mirror link (.replace ∅)
  | .deleteRoleLink link => .orphan link
  | _ => .other

/-- The token that a RoleLogic call presents. -/
def SyncOp.token? : SyncOp → Option String
  | .getUserInfo _ token => some token
  | .addUser _ _ token => some token
  | .removeUser _ _ token => some token
  | .uploadUsers _ _ token => some token
  | _ => none

/-- The two kinds of jobs that `dispatch` runs. -/
inductive Dispatch where
  | playerSync (discordId : DiscordId)
  | configSync (link : Link)
  deriving DecidableEq

/-- The actions of a player job become branches of their own. -/
def Dispatch.program (engines : Engines) : Dispatch → SyncProgram (List (SyncProgram Unit))
  | .playerSync discordId => do
      let actions ← syncForPlayer engines discordId
      return actions.map (performAction discordId)
  | .configSync link => do
      syncForRoleLink link
      return []

abbrev SyncThread := Thread SyncOp SyncOp.Value AppError

/-- An operation is served, or it is refused without an effect. -/
inductive Outcome where
  | served
  | refused (error : AppError)
  deriving DecidableEq

def answer (engines : Engines) (outcome : Outcome) (world : World) (operation : SyncOp) :
    Except AppError operation.Value × World :=
  match outcome with
  | .served => perform engines world operation
  | .refused error => (.error error, world)

/-- The trace keeps, for each link, the updates that RoleLogic has made and the mirror has not, in
the order of RoleLogic. -/
structure Traced where
  world : World
  outstanding : Link → List Update

def Traced.record (outstanding : Link → List Update) : Part → Link → List Update
  | .roleLogic link (some update) =>
      Function.update outstanding link (outstanding link ++ [update])
  | .mirror link update => Function.update outstanding link ((outstanding link).erase update)
  | _ => outstanding

def Traced.answer (engines : Engines) (outcome : Outcome) (traced : Traced) (operation : SyncOp) :
    Except AppError operation.Value × Traced :=
  let answered := Sync.answer engines outcome traced.world operation
  (answered.1,
    { world := answered.2
      outstanding :=
        match answered.1 with
        | .ok _ => Traced.record traced.outstanding operation.part
        | .error _ => traced.outstanding })

structure System where
  traced : Traced
  threads : List SyncThread
  /-- The next job number. -/
  jobs : Nat

abbrev System.world (system : System) : World := system.traced.world

inductive Event where
  | begin (dispatch : Dispatch)
  | advance (index : Nat) (outcome : Outcome)
  /-- The process of the job stops between two operations. -/
  | stop (job : Nat)
  /-- Another party changes the surroundings. -/
  | change (world : World)
  | register (link : Link) (token : String)

def System.step (engines : Engines) (system : System) : Event → Option System
  | .begin dispatch => some { system with
      threads := system.threads ++ (⟨system.jobs, dispatch.program engines⟩ : SyncThread).settled
      jobs := system.jobs + 1 }
  | .advance index outcome =>
      (Resumption.advance (Traced.answer engines outcome) actionConcurrency system.traced
        system.threads index).map fun advanced =>
          { system with traced := advanced.1, threads := advanced.2 }
  | .stop job => some { system with threads := system.threads.filter fun thread => thread.job ≠ job }
  | .change world => some { system with traced := { system.traced with world } }
  | .register link token =>
      match Plugin.insertRoleLink system.world.now link.1 link.2 token system.world.tables with
      | .ok tables => some { system with
          traced := { system.traced with world := { system.world with tables } } }
      | .error _ => some system

/-- The operation that the thread waits for. -/
def System.waiting (system : System) (index : Nat) : Option SyncOp :=
  system.threads[index]?.bind fun thread => thread.program.head?

/-- No job is in the middle of its steps. -/
def System.quiet (system : System) : Bool := system.threads.isEmpty

/-- No job has begun, and nothing is outstanding. -/
def System.start (world : World) : System where
  traced := ⟨world, fun _ => []⟩
  threads := []
  jobs := 0

/-- The facts, the rules, the tokens, the members and the clock may change, and nothing else. -/
structure FactsChange (before after : World) : Prop where
  remote : after.remote = before.remote
  assignments : after.tables.roleAssignments = before.tables.roleAssignments
  links : ∀ link, (after.tables.roleLinks.find link).isSome =
    (before.tables.roleLinks.find link).isSome

end OsuPlayerRole.Sync
