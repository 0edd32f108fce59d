/-
This file gives the surroundings of the synchronization jobs and the effect of each operation.
-/
import OsuPlayerRole.Construction.Services.Sync
import OsuPlayerRole.Construction.Services.SqlMeaning

namespace OsuPlayerRole.Sync

open Json RuleSql

/-- The surroundings are the database, the lists RoleLogic holds, the gateway, and the clock. -/
@[ext] structure World where
  tables : Tables
  remote : Link → Finset DiscordId
  guildsOf : DiscordId → List GuildId
  membersOf : GuildId → List DiscordId
  userLimit : Link → Nat
  now : Timestamp

def linkRow (row : RoleLink) : LinkRow := ⟨row.link, row.apiToken, row.ruleTree.value⟩

def selectRoleLinks (tables : Tables) (guildIds : List GuildId) : Except DbError (List LinkRow) := do
  send [.textArray guildIds]
  return (tables.roleLinks.rows.filter fun row => guildIds.contains row.guildId).map linkRow

def selectFacts (tables : Tables) (discordId : DiscordId) (mode : Mode) :
    Except DbError (Option FactsRow) :=
  match tables.osuUsers.find discordId with
  | none => .ok none
  | some user => some <$> factsSelect ⟨user, tables.statsOf user mode⟩

/-- The links with assignments are among the rows, because an assignment references its link. -/
def assignmentsOf (tables : Tables) (discordId : DiscordId) : Finset Link :=
  ((tables.roleLinks.rows.map RoleLink.link).filter fun link =>
    discordId ∈ tables.roleAssignments link).toFinset

/-- A conflict with a stored assignment does nothing. -/
def insertAssignment (tables : Tables) (link : Link) (discordId : DiscordId) :
    Except DbError Tables :=
  tables.setAssignments link (insert discordId (tables.roleAssignments link))

def deleteAssignment (tables : Tables) (link : Link) (discordId : DiscordId) :
    Except DbError Tables :=
  tables.setAssignments link ((tables.roleAssignments link).erase discordId)

/-- The transaction deletes the assignments of the link and inserts the list. -/
def replaceAssignments (tables : Tables) (link : Link) (ids : List DiscordId) :
    Except DbError Tables :=
  if ids.Nodup then tables.setAssignments link ids.toFinset
  else .error (.uniqueViolation "role_assignments_pkey")

def deleteRoleLink (tables : Tables) (link : Link) : Tables :=
  tables.deleteRoleLinks fun row => row.link = link

/-- The answer of a query leaves the surroundings alone. -/
def answered {A : Type} (world : World) (answer : Except DbError A) : Except AppError A × World :=
  (answer.mapError .database, world)

/-- An answered value is the value of its statement. -/
theorem answered_ok {A : Type} {world : World} {answer : Except DbError A} {value : A}
    (same : (answered world answer).1 = .ok value) : answer = .ok value :=
  Checked.mapError_ok.mp same

/-- A failed statement changes nothing. -/
def executed (world : World) : Except DbError Tables → Except AppError Unit × World
  | .ok tables => (.ok (), { world with tables })
  | .error error => (.error (.database error), world)

def listOf (world : World) (link : Link) : List DiscordId :=
  OrderedSet.ordered (world.tables.roleAssignments link)

/-- Each operation is served. A RoleLogic call changes the list of its link. -/
def perform (engines : Engines) (world : World) :
    (operation : SyncOp) → Except AppError operation.Value × World
  | .fetchUserGuildIds discordId => (.ok (world.guildsOf discordId), world)
  | .fetchGuildMemberIds guildId => (.ok (world.membersOf guildId), world)
  | .utcNow => (.ok world.now, world)
  | .selectRoleLinks guildIds => answered world (selectRoleLinks world.tables guildIds)
  | .existsOsuUser discordId => (.ok (world.tables.osuUsers.find discordId).isSome, world)
  | .selectAssignmentsOf discordId => (.ok (assignmentsOf world.tables discordId), world)
  | .selectFacts discordId mode => answered world (selectFacts world.tables discordId mode)
  | .selectRoleLink link => (.ok ((world.tables.roleLinks.find link).map linkRow), world)
  | .selectLinked members limit => answered world (linkedIds world.tables members >>= limited limit)
  | .selectQualifying mode members clause binds limit =>
      answered world
        (qualifyingIds engines world.now world.tables mode members clause binds >>= limited limit)
  | .selectAssigned link => (.ok (listOf world link), world)
  | .existsAssigned link => (.ok !(listOf world link).isEmpty, world)
  | .insertAssignment link discordId =>
      executed world (insertAssignment world.tables link discordId)
  | .deleteAssignment link discordId =>
      executed world (deleteAssignment world.tables link discordId)
  | .replaceAssignments link ids => executed world (replaceAssignments world.tables link ids)
  | .clearAssignments link => executed world (world.tables.setAssignments link ∅)
  | .deleteRoleLink link => executed world (.ok (deleteRoleLink world.tables link))
  | .getUserInfo link _ => (.ok ((world.remote link).card, world.userLimit link), world)
  | .addUser link discordId _ =>
      (.ok (decide (discordId ∉ world.remote link)),
        { world with
          remote := Function.update world.remote link (insert discordId (world.remote link)) })
  | .removeUser link discordId _ =>
      (.ok (decide (discordId ∈ world.remote link)),
        { world with
          remote := Function.update world.remote link ((world.remote link).erase discordId) })
  | .uploadUsers link ids _ =>
      (.ok ids.toFinset.card,
        { world with remote := Function.update world.remote link ids.toFinset })

end OsuPlayerRole.Sync
