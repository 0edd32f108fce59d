/-
This file gives a worker that works off the queue alone, at one moment.
-/
import OsuPlayerRole.Construction.Tasks.JobWorker

namespace OsuPlayerRole.JobWorker

open Jobs

/-- How the synchronization of each job ends, the jitter of its retry, and the order of the batches. -/
structure Course where
  synchronized : Nat → Except AppError Unit
  jitterMs : Nat → Nat
  order : RowOrder

/-- Every statement is served, and no row is locked. -/
def Course.input (course : Course) (worker : Worker) : Input where
  refused := false
  skipped := []
  order := course.order
  woken := false
  jitterMs :=
    match worker.phase with
    | .settle job _ _ => course.jitterMs job.id
    | _ => 0
  synchronized :=
    match worker.phase with
    | .running job _ => course.synchronized job.id
    | _ => .ok ()

/-- The jobs stand in the order in which the worker has dispatched them. -/
structure Draining where
  worker : Worker
  tables : Tables
  dispatched : List ClaimedJob

/-- The job whose dispatch has just begun. -/
def Worker.starting (worker : Worker) : List ClaimedJob :=
  match worker.phase with
  | .running job _ => [job]
  | _ => []

section

variable (texts : ErrorTexts) (batchSize : Nat) (now : Timestamp) (course : Course)

def Draining.step (draining : Draining) (_ : Unit) : Option Draining :=
  (draining.worker.step texts batchSize now (course.input draining.worker) draining.tables).map
    fun (worker, tables) => ⟨worker, tables, draining.dispatched ++ worker.starting⟩

end

end OsuPlayerRole.JobWorker
