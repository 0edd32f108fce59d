/-
This file gives the server with any number of requests on their way.
-/
import OsuPlayerRole.Construction.Routes.Router
import OsuPlayerRole.Library.EventRun

namespace OsuPlayerRole.Serving

open Web Resumption

/-- An operation is performed at once, on the tables and in the surroundings of its moment. -/
structure Moment where
  tables : Tables
  outside : Outside
  operation : WebOp

/-- A request has performed some operations, and the rest of its route remains. -/
structure Handling where
  headers : Headers
  request : Request
  moments : List Moment
  program : WebProgram Response

section

variable (state : AppState)

def Moment.performed (moment : Moment) : Program.Performed WebOp WebOp.Value AppError :=
  ⟨moment.operation, (answer state moment.outside moment.tables moment.operation).1⟩

def Handling.arrived (headers : Headers) (request : Request) : Handling :=
  ⟨headers, request, [], route state headers request⟩

def Handling.advance (outside : Outside) (tables : Tables) (handling : Handling) :
    Option (Handling × Tables) :=
  match handling.program with
  | .call operation next =>
      let answered := answer state outside tables operation
      some ({ handling with
        moments := handling.moments ++ [⟨tables, outside, operation⟩]
        program := next answered.1 }, answered.2)
  | _ => none

end

/-- The requests stand in the order of their arrival. -/
structure Service where
  tables : Tables
  handlings : List Handling

inductive Event where
  | arrive (headers : Headers) (request : Request)
  | advance (index : Nat) (outside : Outside)
  /-- A worker changes the tables. -/
  | elsewhere (tables : Tables)

def Service.step (state : AppState) (service : Service) : Event → Option Service
  | .arrive headers request =>
      some { service with handlings := service.handlings ++ [Handling.arrived state headers request] }
  | .advance index outside =>
      (service.handlings[index]?.bind (Handling.advance state outside service.tables)).map
        fun (handling, tables) => ⟨tables, service.handlings.set index handling⟩
  | .elsewhere tables => some { service with tables }

def Service.start (tables : Tables) : Service := ⟨tables, []⟩

/-- The rule of a link as it is stored. -/
def storedRule (link : Link) (tables : Tables) : Option Json.Jsonb :=
  (tables.roleLinks.find link).map RoleLink.ruleTree

end OsuPlayerRole.Serving
