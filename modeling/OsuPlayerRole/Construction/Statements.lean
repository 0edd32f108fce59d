/-
This file gives the statements of the server on the links, the settings, the queue and the accounts.
-/
import OsuPlayerRole.Construction.Services.SqlMeaning

namespace OsuPlayerRole.Tables

open Json KeyedTable RuleSql

/-- This statement changes one link and keeps its key. -/
def updateRoleLink (tables : Tables) (change : RoleLink → RoleLink)
    (keeps : ∀ row, (change row).link = row.link) : Tables :=
  { tables with
    roleLinks := tables.roleLinks.update change keeps
    assignmentsReference := fun link present => by
      rw [Table.find_update, Option.isSome_map]
      exact tables.assignmentsReference link present }

def bumped (tree : Jsonb) (now : Timestamp) (version : Int4) (link : Link) (row : RoleLink) : RoleLink :=
  if row.link = link then
    { row with ruleTree := tree, ruleTreeVersion := version, updatedAt := now }
  else row

theorem bumped_link (tree : Jsonb) (now : Timestamp) (version : Int4) (link : Link) (row : RoleLink) :
    (bumped tree now version link row).link = row.link := by
  unfold bumped
  split <;> rfl

/-- The condition compares the version, and the statement stores the tree under the next one. The
result is the number of rows. -/
def updateRuleTree (now : Timestamp) (tree : Value) (link : Link) (expected : Int4) (tables : Tables) :
    Except DbError (Nat × Tables) := do
  let tree ← jsonb tree
  send [.text link.1, .text link.2]
  match tables.roleLinks.find link with
  | none => return (0, tables)
  | some row =>
      if row.ruleTreeVersion = expected then
        let version ← Int4.ofInt (row.ruleTreeVersion + 1)
        return (1, tables.updateRoleLink (bumped tree now version link) (bumped_link tree now version link))
      else return (0, tables)

def defaultViewPermission : String := "managers"

/-- A stored row is kept. -/
def insertGuildSettings (now : Timestamp) (guildId : GuildId) (tables : Tables) :
    Except DbError Tables := do
  send [.text guildId]
  let fresh : GuildSettings := ⟨guildId, defaultViewPermission, now⟩
  return { tables with guildSettings := tables.guildSettings.upsert fresh id fun _ => rfl }

def upsertViewPermission (now : Timestamp) (guildId : GuildId) (permission : String) (tables : Tables) :
    Except DbError Tables := do
  send [.text guildId, .text permission]
  let fresh : GuildSettings := ⟨guildId, permission, now⟩
  return { tables with
    guildSettings := tables.guildSettings.upsert fresh
      (fun row => { row with viewPermission := permission, updatedAt := now }) fun _ => rfl }

section Queue

def freshJob (now : Timestamp) (id : Nat) (kind : String) (payload : Jsonb) (delaySecs : Nat) : Job where
  id := id
  kind := kind
  payload := payload
  status := .pending
  attempts := .zero
  maxAttempts := ⟨8, by decide⟩
  nextRunAt := now + delaySecs * 1000000
  lastError := none
  lockedBy := none
  lockedAt := none
  createdAt := now
  completedAt := none

/-- The sequence gives the job its identifier. -/
def enqueue (now : Timestamp) (kind : String) (payload : Value) (delaySecs : Nat) (tables : Tables) :
    Except DbError Tables := do
  let payload ← jsonb payload
  let job := freshJob now tables.jobSequence kind payload delaySecs
  return { tables with
    jobs := tables.jobs.insertNew job fun other member => Nat.ne_of_lt (tables.jobsBelow other member)
    jobSequence := tables.jobSequence + 1
    jobsBelow := fun other member => by
      obtain old | rfl := Table.mem_insertNew.mp member
      · exact Nat.lt_succ_of_lt (tables.jobsBelow other old)
      · exact Nat.lt_succ_self _ }

def enqueuePlayerSync (now : Timestamp) (discordId : DiscordId) (tables : Tables) :
    Except DbError Tables :=
  tables.enqueue now "player_sync" (.object [("discord_id", .string discordId)]) 0

/-- Rapid saves are absorbed by a delay. -/
def enqueueConfigSync (now : Timestamp) (link : Link) (tables : Tables) : Except DbError Tables :=
  tables.enqueue now "config_sync"
    (.object [("guild_id", .string link.1), ("role_id", .string link.2)]) 5

end Queue

section Accounts

/-- This statement changes users and keeps their identities. -/
def updateOsuUsers (tables : Tables) (change : OsuUser → OsuUser)
    (keeps : ∀ row, (change row).discordId = row.discordId)
    (accounts : ∀ row, (change row).osuUserId = row.osuUserId) : Tables :=
  { tables with
    osuUsers := tables.osuUsers.update change keeps
    osuUserIdUnique := by
      have same : (tables.osuUsers.rows.map change).map OsuUser.osuUserId =
          tables.osuUsers.rows.map OsuUser.osuUserId := by
        rw [List.map_map]
        exact List.map_congr_left fun row _ => accounts row
      change ((tables.osuUsers.rows.map change).map OsuUser.osuUserId).Nodup
      rw [same]
      exact tables.osuUserIdUnique
    statsReference := fun stats member => by
      obtain ⟨user, inside, same⟩ := tables.statsReference stats member
      exact ⟨change user, Table.mem_update.mpr ⟨user, inside, rfl⟩, (accounts user).trans same⟩ }

/-- Only the row of the Discord account changes its schedule. -/
def scheduled (discordId : DiscordId) (refreshedAt : OsuUser → Timestamp) (next : Timestamp)
    (failures : Int4) (row : OsuUser) : OsuUser :=
  if row.discordId = discordId then
    { row with refreshedAt := refreshedAt row, nextRefreshAt := next, refreshFailures := failures }
  else row

section

variable {discordId : DiscordId} {refreshedAt : OsuUser → Timestamp} {next : Timestamp} {failures : Int4}

theorem scheduled_discordId (row : OsuUser) :
    (scheduled discordId refreshedAt next failures row).discordId = row.discordId := by
  unfold scheduled
  split <;> rfl

theorem scheduled_osuUserId (row : OsuUser) :
    (scheduled discordId refreshedAt next failures row).osuUserId = row.osuUserId := by
  unfold scheduled
  split <;> rfl

end

def updateRefreshed (now : Timestamp) (discordId : DiscordId) (next : Timestamp) (tables : Tables) :
    Tables :=
  tables.updateOsuUsers (scheduled discordId (fun _ => now) next .zero)
    scheduled_discordId scheduled_osuUserId

def updateFailed (discordId : DiscordId) (next : Timestamp) (tables : Tables) : Except DbError Tables :=
  match tables.osuUsers.find discordId with
  | none => .ok tables
  | some row => do
      let failures ← Int4.ofInt (row.refreshFailures + 1)
      return tables.updateOsuUsers (scheduled discordId OsuUser.refreshedAt next failures)
        scheduled_discordId scheduled_osuUserId

/-- The users that are due, the stalest first. -/
def selectDue (now : Timestamp) (limit : Nat) (tables : Tables) : List (DiscordId × OsuUserId) :=
  let due := tables.osuUsers.rows.filter fun row => row.nextRefreshAt ≤ now
  ((due.insertionSort fun first second => first.nextRefreshAt ≤ second.nextRefreshAt).take limit).map
    fun row => (row.discordId, row.osuUserId)

/-- The result is the account whose row was deleted. -/
def deleteOsuUser (discordId : DiscordId) (tables : Tables) :
    Except DbError (Option OsuUserId × Tables) := do
  send [.text discordId]
  return ((tables.osuUsers.find discordId).map OsuUser.osuUserId,
    tables.deleteOsuUsers fun row => row.discordId = discordId)

def insertOauthState (row : OsuOauthState) (tables : Tables) : Except DbError Tables := do
  send ([.text row.state, .text row.codeVerifier, .text row.discordId] ++
    (row.returnTo.map Bind.text).toList)
  match tables.osuOauthStates.insert? row with
  | some osuOauthStates => return { tables with osuOauthStates }
  | none => .error (.uniqueViolation "osu_oauth_states_pkey")

/-- The row is deleted as it is read, so it is used once. An expired row stays. -/
def consumeOauthState (now : Timestamp) (state : String) (tables : Tables) :
    Except DbError (Option OsuOauthState × Tables) := do
  send [.text state]
  let live := fun row : OsuOauthState => row.state = state && decide (row.expiresAt > now)
  return ((tables.osuOauthStates.find state).filter live,
    { tables with osuOauthStates := tables.osuOauthStates.delete live })

end Accounts

end OsuPlayerRole.Tables
