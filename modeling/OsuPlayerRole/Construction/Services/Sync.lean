/-
This file gives the two synchronization jobs as programs over their outside operations.
-/
import OsuPlayerRole.Construction.Services.ConditionEval
import OsuPlayerRole.Construction.Services.FactsRow
import OsuPlayerRole.Library.Resumption

namespace OsuPlayerRole.Sync

open Resumption

/-- Each operation is one gateway request, one statement or transaction, one RoleLogic call, or one
reading of the clock. -/
inductive SyncOp where
  | fetchUserGuildIds (discordId : DiscordId)
  | fetchGuildMemberIds (guildId : GuildId)
  | utcNow
  | selectRoleLinks (guildIds : List GuildId)
  | existsOsuUser (discordId : DiscordId)
  | selectAssignmentsOf (discordId : DiscordId)
  | selectFacts (discordId : DiscordId) (mode : Mode)
  | selectRoleLink (link : Link)
  | selectLinked (members : List DiscordId) (limit : Nat)
  | selectQualifying (mode : Mode) (members : List DiscordId) (clause : RuleSql.Where)
      (binds : List RuleSql.Bind) (limit : Nat)
  | selectAssigned (link : Link)
  | existsAssigned (link : Link)
  | insertAssignment (link : Link) (discordId : DiscordId)
  | deleteAssignment (link : Link) (discordId : DiscordId)
  | replaceAssignments (link : Link) (ids : List DiscordId)
  | clearAssignments (link : Link)
  | deleteRoleLink (link : Link)
  | getUserInfo (link : Link) (token : String)
  | addUser (link : Link) (discordId : DiscordId) (token : String)
  | removeUser (link : Link) (discordId : DiscordId) (token : String)
  | uploadUsers (link : Link) (ids : List DiscordId) (token : String)

structure LinkRow where
  link : Link
  apiToken : String
  rawTree : Json.Value

@[reducible] def SyncOp.Value : SyncOp → Type
  | .fetchUserGuildIds _ => List GuildId
  | .fetchGuildMemberIds _ => List DiscordId
  | .utcNow => Timestamp
  | .selectRoleLinks _ => List LinkRow
  | .existsOsuUser _ => Bool
  | .selectAssignmentsOf _ => Finset Link
  | .selectFacts _ _ => Option FactsRow
  | .selectRoleLink _ => Option LinkRow
  | .selectLinked _ _ => List DiscordId
  | .selectQualifying _ _ _ _ _ => List DiscordId
  | .selectAssigned _ => List DiscordId
  | .existsAssigned _ => Bool
  | .getUserInfo _ _ => Nat × Nat
  | .addUser _ _ _ => Bool
  | .removeUser _ _ _ => Bool
  | .uploadUsers _ _ _ => Nat
  | _ => Unit

abbrev SyncProgram := Program SyncOp SyncOp.Value AppError

/-- The error of the operation is returned early. -/
def ask (operation : SyncOp) : SyncProgram operation.Value := Program.ask operation

/-- The error of the operation is handed to the caller. -/
def result (operation : SyncOp) : SyncProgram (Except AppError operation.Value) :=
  Program.result operation

inductive Action where
  | add (link : Link) (token : String)
  | remove (link : Link) (token : String)
  deriving DecidableEq

/-- The deletion is best effort, so its error is dropped. -/
def deleteOrphanRoleLink (link : Link) : SyncProgram Unit := do
  let _ ← result (.deleteRoleLink link)
  return ()

section Player

variable (engines : Engines) (discordId : DiscordId)

def qualifies (isLinked : Bool) (tree : RuleTree) : SyncProgram Bool :=
  if tree.grantOnAnyPlayer then return isLinked
  else if tree.groups.isEmpty then return false
  else do
    match ← ask (.selectFacts discordId tree.defaultMode) with
    | some row =>
        let now ← ask .utcNow
        return ConditionEval.evaluate engines now tree row.facts
    | none => return false

def planActions (isLinked : Bool) (existing : Finset Link) : List LinkRow → SyncProgram (List Action)
  | [] => return []
  | row :: rest => do
      let qualified ← qualifies engines discordId isLinked (RuleTree.ofColumn row.rawTree)
      let actions ← planActions isLinked existing rest
      match qualified, decide (row.link ∈ existing) with
      | true, false => return .add row.link row.apiToken :: actions
      | false, true => return .remove row.link row.apiToken :: actions
      | _, _ => return actions

/-- This is the first part of `sync_for_player`, up to the list of actions. -/
def syncForPlayer : SyncProgram (List Action) := do
  let guildIds ← ask (.fetchUserGuildIds discordId)
  if guildIds.isEmpty then return []
  let roleLinks ← ask (.selectRoleLinks guildIds)
  if roleLinks.isEmpty then return []
  let isLinked ← ask (.existsOsuUser discordId)
  let existing ← ask (.selectAssignmentsOf discordId)
  planActions engines discordId isLinked existing roleLinks

/-- This is the body that `for_each_concurrent` runs for each action. The error of the local
statement is dropped. -/
def performAction : Action → SyncProgram Unit
  | .add link token => do
      match ← result (.addUser link discordId token) with
      | .error .roleLinkNotFound => deleteOrphanRoleLink link
      | .error _ => return ()
      | .ok _ =>
          let _ ← result (.insertAssignment link discordId)
          return ()
  | .remove link token => do
      match ← result (.removeUser link discordId token) with
      | .error .roleLinkNotFound => deleteOrphanRoleLink link
      | .error _ => return ()
      | .ok _ =>
          let _ ← result (.deleteAssignment link discordId)
          return ()

/-- At most this many actions of one job run at the same time. -/
def actionConcurrency : Nat := 10

end Player

section RoleLink

variable (link : Link)

/-- A full replacement that RoleLogic turns down for a known reason ends the job without an error. -/
def afterUpload (answer : Except AppError Nat) (stored : SyncProgram Unit) : SyncProgram Unit :=
  match answer with
  | .ok _ => stored
  | .error .roleLinkNotFound => deleteOrphanRoleLink link
  | .error .roleLinkDisabled => return ()
  | .error .removalHeld => return ()
  | .error error => .fail error

def drainToEmpty (token : String) : SyncProgram Unit := do
  let present ← ask (.existsAssigned link)
  if !present then return ()
  let answer ← result (.uploadUsers link [] token)
  afterUpload link answer (ask (.clearAssignments link))

/-- The mode and the members are the first two parameters, so the binds of the rule start at the third. -/
def qualifyingQuery (tree : RuleTree) (members : List DiscordId) (userLimit : Nat) :
    SyncProgram (List DiscordId) :=
  if tree.grantOnAnyPlayer then ask (.selectLinked members userLimit)
  else
    let (clause, binds) := RuleSql.buildRuleWhere tree 2
    ask (.selectQualifying tree.defaultMode members clause binds userLimit)

/-- The replacement is skipped when the mirror already equals the list. -/
def replaceList (token : String) (qualifying : List DiscordId) : SyncProgram Unit := do
  let current ← ask (.selectAssigned link)
  if current = qualifying then return ()
  let answer ← result (.uploadUsers link qualifying token)
  afterUpload link answer (ask (.replaceAssignments link qualifying))

def syncForRoleLink : SyncProgram Unit := do
  match ← ask (.selectRoleLink link) with
  | none => return ()
  | some row =>
      let tree := RuleTree.ofColumn row.rawTree
      if !tree.grantOnAnyPlayer && tree.groups.isEmpty then drainToEmpty link row.apiToken
      else
        let members ← ask (.fetchGuildMemberIds link.1)
        if members.isEmpty then drainToEmpty link row.apiToken
        else
          match ← result (.getUserInfo link row.apiToken) with
          | .error .roleLinkNotFound => deleteOrphanRoleLink link
          | .error .roleLinkDisabled => return ()
          | .error error => .fail error
          | .ok (_, userLimit) =>
              let qualifying ← qualifyingQuery tree members userLimit
              replaceList link row.apiToken qualifying

end RoleLink

end OsuPlayerRole.Sync
