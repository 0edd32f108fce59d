/-
This file gives the clients that load and save the rules of the links.
-/
import OsuPlayerRole.Construction.Routes.Admin
import OsuPlayerRole.Construction.Routes.WebWorld
import OsuPlayerRole.Library.EventRun

namespace OsuPlayerRole.Editing

open Web Resumption

/-- A save keeps the tree it sends, and the tree that its update has replaced. -/
inductive Pending where
  | load (program : WebProgram Admin.RoleConfigData)
  | save (sent replaced : Option RuleTree) (program : WebProgram Int4)

/-- A client edits one link and has at most one request on its way. It holds the tree and the version
that it has loaded or saved last. -/
structure Client where
  link : Link
  held : Option (RuleTree × Int4)
  pending : Option Pending
  /-- The answer to the last save. -/
  response : Option (Except AppError Int4)

/-- The rule of a link as the data route reads it. -/
def ruleOf (tables : Tables) (link : Link) : Option (RuleTree × Int4) :=
  (tables.roleLinks.find link).map fun row =>
    (RuleTree.ofColumn row.ruleTree.value, row.ruleTreeVersion)

/-- The tree that a successful update replaces. -/
def replacedBy (tables : Tables) :
    (operation : WebOp) → Except AppError operation.Value → Option RuleTree
  | .updateRuleTree _ link _, .ok affected =>
      if affected = 0 then none else (ruleOf tables link).map Prod.fst
  | _, _ => none

namespace Client

/-- A client that gets its answer adopts it. -/
def settle (client : Client) : Client :=
  match client.pending with
  | some (.load (.done data)) =>
      { client with held := some (data.config, data.ruleTreeVersion), pending := none }
  | some (.load (.fail _)) => { client with pending := none }
  | some (.save sent _ (.done version)) =>
      { client with
        held := sent.map fun tree => (tree, version)
        pending := none
        response := some (.ok version) }
  | some (.save _ _ (.fail error)) =>
      { client with pending := none, response := some (.error error) }
  | _ => client

section

variable (state : AppState) (headers : Headers)

def load (client : Client) : Option Client :=
  match client.pending with
  | some _ => none
  | none => some (settle { client with
      pending := some (.load (Admin.roleConfigData state headers client.link.1 client.link.2)) })

/-- A save sends the version that the client holds. -/
def save (tree : RuleValidator.RuleTreeBody) (client : Client) : Option Client :=
  match client.pending, client.held with
  | none, some (_, version) => some (settle { client with
      pending := some (.save (RuleValidator.parseRuleTree state.engines tree).toOption none
        (Admin.roleConfigSave state headers client.link.1 client.link.2 ⟨version, tree⟩)) })
  | _, _ => none

/-- The server performs the next operation of the request. -/
def advance (outside : Outside) (tables : Tables) (client : Client) : Option (Client × Tables) :=
  match client.pending with
  | some (.load (.call operation next)) =>
      let answered := answer state outside tables operation
      some (settle { client with pending := some (.load (next answered.1)) }, answered.2)
  | some (.save sent replaced (.call operation next)) =>
      let answered := answer state outside tables operation
      some (settle { client with
        pending := some (.save sent (replaced.or (replacedBy tables operation answered.1))
          (next answered.1)) }, answered.2)
  | _ => none

end

/-- The request is given up between two operations, and its answer is lost. -/
def drop (client : Client) : Client := { client with pending := none }

/-- The operation that the request of the client waits for. -/
def waiting (client : Client) : Option WebOp :=
  match client.pending with
  | some (.load program) => program.head?
  | some (.save _ _ program) => program.head?
  | none => none

end Client

structure System where
  tables : Tables
  clients : List Client

inductive Event where
  | load (index : Nat) (headers : Headers)
  | save (index : Nat) (headers : Headers) (tree : RuleValidator.RuleTreeBody)
  | advance (index : Nat) (outside : Outside)
  | drop (index : Nat)

def System.step (state : AppState) (system : System) : Event → Option System
  | .load index headers =>
      (system.clients[index]?.bind (Client.load state headers)).map fun client =>
        { system with clients := system.clients.set index client }
  | .save index headers tree =>
      (system.clients[index]?.bind (Client.save state headers tree)).map fun client =>
        { system with clients := system.clients.set index client }
  | .advance index outside =>
      (system.clients[index]?.bind (Client.advance state outside system.tables)).map
        fun (client, tables) => ⟨tables, system.clients.set index client⟩
  | .drop index =>
      system.clients[index]?.map fun client =>
        { system with clients := system.clients.set index client.drop }

/-- No client has loaded a rule. -/
def System.start (tables : Tables) (links : List Link) : System :=
  ⟨tables, links.map fun link => ⟨link, none, none, none⟩⟩

end OsuPlayerRole.Editing
