/-
This file gives the synchronizations of one player among the writes that enqueue them.
-/
import OsuPlayerRole.Construction.Routes.WebWorld
import OsuPlayerRole.Construction.Tasks.SyncSystem

namespace OsuPlayerRole.Sync

open Web Resumption

/-- The requests that write the account of a player, each with one transaction. -/
inductive AccountWrite where
  | link (user : Osu.OsuUser) (pages : Mode → Option Osu.OsuUser)
  | unlink
  | refresh (osuUserId : OsuUserId) (primary : Osu.OsuUser) (pages : Mode → Option Osu.OsuUser)

def AccountWrite.operation (discordId : DiscordId) : AccountWrite → WebOp
  | .link user pages => .linkAccount discordId user pages
  | .unlink => .deleteOsuUser discordId
  | .refresh osuUserId primary pages => .refreshAccount discordId osuUserId primary pages

/-- A write that has committed owes its job until it enqueues it. A job is pending until a worker
claims it. -/
structure PlayerSystem where
  system : System
  owed : Nat
  pending : Nat

inductive PlayerEvent where
  | write (outside : Outside) (write : AccountWrite)
  | enqueue
  | claim
  | advance (index : Nat)
  | tick (now : Timestamp)

namespace PlayerSystem

abbrev world (player : PlayerSystem) : World := player.system.world

abbrev threads (player : PlayerSystem) : List SyncThread := player.system.threads

def withWorld (player : PlayerSystem) (world : World) : PlayerSystem :=
  { player with system := { player.system with traced := { player.system.traced with world } } }

/-- The operation that the thread waits for would succeed. -/
def succeeds (engines : Engines) (world : World) (thread : SyncThread) : Bool :=
  match thread.program with
  | .call operation _ => (perform engines world operation).1.isOk
  | _ => false

/-- Every statement and every call succeeds. -/
def step (state : AppState) (discordId : DiscordId) (player : PlayerSystem) :
    PlayerEvent → Option PlayerSystem
  | .write outside write =>
      match Web.perform state outside player.world.tables (write.operation discordId) with
      | (.ok _, tables) =>
          some { player.withWorld { player.world with tables } with owed := player.owed + 1 }
      | (.error _, _) => none
  | .enqueue =>
      match player.owed with
      | 0 => none
      | owed + 1 => some { player with owed := owed, pending := player.pending + 1 }
  | .claim =>
      match player.pending with
      | 0 => none
      | pending + 1 =>
          (player.system.step state.engines (.begin (.playerSync discordId))).map fun system =>
            { player with system := system, pending := pending }
  | .advance index =>
      if player.threads[index]?.any (succeeds state.engines player.world) then
        (player.system.step state.engines (.advance index .served)).map fun system =>
          { player with system := system }
      else none
  | .tick now => some (player.withWorld { player.world with now })

/-- No job of the player is pending or running, and no write owes one. -/
def atRest (player : PlayerSystem) : Bool :=
  player.threads.isEmpty && player.pending = 0 && player.owed = 0

def start (world : World) : PlayerSystem := ⟨System.start world, 0, 0⟩

end PlayerSystem

end OsuPlayerRole.Sync
