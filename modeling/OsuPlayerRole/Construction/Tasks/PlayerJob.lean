/-
This file gives the dispatch of a player job by the worker that has claimed it.
-/
import OsuPlayerRole.Construction.Tasks.FailingRuns
import OsuPlayerRole.Construction.Tasks.JobWorker

namespace OsuPlayerRole.JobWorker

open Resumption Sync

/-- What the surroundings decide about one player job and about the statements of its worker. -/
structure PlayerJob where
  script : Script
  /-- The order of the actions. -/
  schedule : List Nat
  input : Input
  /-- The moment of the report. -/
  reportedAt : Timestamp

section Dispatch

variable (texts : ErrorTexts) (batchSize : Nat) (engines : Engines) (crates : RoleLogic.Crates)

/-- The worker synchronizes the player and reports how the job has ended. -/
def Worker.finishPlayer (played : PlayerJob) (worker : Worker) (world : World) (discordId : DiscordId) :
    Option World :=
  (syncPlayer engines crates played.script world discordId played.schedule).bind
    fun (synchronized, after) =>
      (worker.step texts batchSize after.now { played.input with synchronized } after.tables).bind
        fun (settling, tables) =>
          (settling.step texts batchSize played.reportedAt played.input tables).map
            fun (_, reported) => { after with tables := reported }

end Dispatch

end OsuPlayerRole.JobWorker
