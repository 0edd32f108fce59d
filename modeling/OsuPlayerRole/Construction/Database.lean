/-
This file gives the tables of the migrations with their constraints.
-/
import OsuPlayerRole.Construction.Error
import OsuPlayerRole.Construction.Models.Condition
import OsuPlayerRole.Library.KeyedTable
import Mathlib.Data.Finset.Basic
import Mathlib.Data.String.Basic

namespace OsuPlayerRole

open Json KeyedTable

abbrev DiscordId := String

abbrev GuildId := String

abbrev RoleId := String

abbrev Link := GuildId × RoleId

/-- The BIGINT identity of an osu! account. -/
abbrev OsuUserId := Int

/-- The instant in microseconds. -/
abbrev Timestamp := Int

/-- The column type INTEGER. -/
abbrev Int4 := { value : Int // -2 ^ 31 ≤ value ∧ value < 2 ^ 31 }

namespace Int4

/-- The database rejects a result that does not fit the column type. -/
def ofInt (value : Int) : Except DbError Int4 :=
  if fits : -2 ^ 31 ≤ value ∧ value < 2 ^ 31 then .ok ⟨value, fits⟩ else .error .integerOutOfRange

def zero : Int4 := ⟨0, by decide⟩

def one : Int4 := ⟨1, by decide⟩

def largest : Int4 := ⟨2 ^ 31 - 1, by decide⟩

/-- The cast `as i32` from `i64` keeps the low bits. -/
def wrap (value : Int) : Int4 := ⟨(value + 2 ^ 31) % 2 ^ 32 - 2 ^ 31, by omega⟩

/-- The cast `as i32` from a float saturates. -/
def saturate (value : Int) : Int4 := ⟨max (-2 ^ 31) (min value (2 ^ 31 - 1)), by omega⟩

end Int4

structure RoleLink where
  guildId : GuildId
  roleId : RoleId
  apiToken : String
  ruleTree : Jsonb
  ruleTreeVersion : Int4
  createdAt : Timestamp
  updatedAt : Timestamp

def RoleLink.link (row : RoleLink) : Link := (row.guildId, row.roleId)

structure GuildSettings where
  guildId : GuildId
  viewPermission : String
  updatedAt : Timestamp
  deriving DecidableEq

structure OsuUser where
  discordId : DiscordId
  osuUserId : OsuUserId
  osuUsername : String
  discordName : Option String
  countryCode : Option String
  countryName : Option String
  profileColour : Option String
  avatarUrl : Option String
  osuJoinedAt : Timestamp
  lastVisitAt : Option Timestamp
  isSupporter : Bool
  supportLevel : Int4
  isRestricted : Bool
  isActive : Bool
  badgeCount : Int4
  followerCount : Int4
  mappingFollowers : Int4
  kudosuTotal : Int4
  rankedBeatmaps : Int4
  lovedBeatmaps : Int4
  pendingBeatmaps : Int4
  graveyardBeatmaps : Int4
  mappingPlaycount : Int4
  replaysWatchedOthers : Int4
  favouriteBeatmapsets : Int4
  /-- The array column is not null, but its elements may be. -/
  playstyles : List (Option String)
  groups : List (Option String)
  profile : Jsonb
  linkedAt : Timestamp
  refreshedAt : Timestamp
  nextRefreshAt : Timestamp
  refreshFailures : Int4

structure OsuStats where
  osuUserId : OsuUserId
  mode : Mode
  globalRank : Option Int4
  countryRank : Option Int4
  performancePoints : Int4
  playCount : Int4
  playTimeHours : Int4
  totalScore : Int
  rankedScore : Int
  hitAccuracy : Int4
  maxCombo : Int4
  levelInt : Int4
  countSsSilver : Int4
  countSs : Int4
  countSSilver : Int4
  countS : Int4
  countA : Int4
  refreshedAt : Timestamp
  deriving DecidableEq

def OsuStats.key (row : OsuStats) : OsuUserId × Mode := (row.osuUserId, row.mode)

inductive JobStatus where
  | pending
  | inProgress
  | completed
  | dead
  deriving DecidableEq

structure Job where
  id : Nat
  kind : String
  payload : Jsonb
  status : JobStatus
  attempts : Int4
  maxAttempts : Int4
  nextRunAt : Timestamp
  lastError : Option String
  lockedBy : Option String
  lockedAt : Option Timestamp
  createdAt : Timestamp
  completedAt : Option Timestamp

structure OsuOauthState where
  state : String
  codeVerifier : String
  discordId : DiscordId
  returnTo : Option String
  createdAt : Timestamp
  expiresAt : Timestamp
  deriving DecidableEq

/-- The tables carry the primary keys in their types and the other constraints as fields. -/
@[ext] structure Tables where
  roleLinks : Table RoleLink Link RoleLink.link
  roleAssignments : Link → Finset DiscordId
  guildSettings : Table GuildSettings GuildId GuildSettings.guildId
  osuUsers : Table OsuUser DiscordId OsuUser.discordId
  osuStats : Table OsuStats (OsuUserId × Mode) OsuStats.key
  jobs : Table Job Nat Job.id
  /-- The next value of the sequence behind the job identifiers. -/
  jobSequence : Nat
  osuOauthStates : Table OsuOauthState String OsuOauthState.state
  osuUserIdUnique : (osuUsers.rows.map OsuUser.osuUserId).Nodup
  statsReference : ∀ stats ∈ osuStats.rows, ∃ user ∈ osuUsers.rows, user.osuUserId = stats.osuUserId
  assignmentsReference : ∀ link, roleAssignments link ≠ ∅ → (roleLinks.find link).isSome
  jobsBelow : ∀ job ∈ jobs.rows, job.id < jobSequence

namespace Tables

def empty : Tables where
  roleLinks := .empty
  roleAssignments _ := ∅
  guildSettings := .empty
  osuUsers := .empty
  osuStats := .empty
  jobs := .empty
  jobSequence := 1
  osuOauthStates := .empty
  osuUserIdUnique := List.nodup_nil
  statsReference := by simp [Table.empty]
  assignmentsReference := by simp
  jobsBelow := by simp [Table.empty]

/-- The statistics of one account and mode, as the left join finds them. -/
def statsOf (tables : Tables) (user : OsuUser) (mode : Mode) : Option OsuStats :=
  tables.osuStats.find (user.osuUserId, mode)

/-- The deletion of links cascades to their assignments. -/
def deleteRoleLinks (tables : Tables) (condition : RoleLink → Bool) : Tables :=
  { tables with
    roleLinks := tables.roleLinks.delete condition
    roleAssignments := fun link =>
      if ((tables.roleLinks.delete condition).find link).isSome then tables.roleAssignments link else ∅
    assignmentsReference := fun link present => by
      by_contra missing
      exact present (if_neg missing) }

/-- This statement inserts a link, or merges it into the stored link. -/
def upsertRoleLink (tables : Tables) (fresh : RoleLink) (merge : RoleLink → RoleLink)
    (keeps : ∀ row, (merge row).link = row.link := by intro row; rfl) : Tables :=
  { tables with
    roleLinks := tables.roleLinks.upsert fresh merge keeps
    assignmentsReference := fun link present => by
      rw [Table.find_upsert]
      split
      · rfl
      · exact tables.assignmentsReference link present }

/-- The deletion of users cascades to the statistics of their accounts. -/
def deleteOsuUsers (tables : Tables) (condition : OsuUser → Bool) : Tables :=
  { tables with
    osuUsers := tables.osuUsers.delete condition
    osuStats := tables.osuStats.delete fun stats =>
      tables.osuUsers.rows.any fun user => condition user && user.osuUserId = stats.osuUserId
    osuUserIdUnique := tables.osuUserIdUnique.sublist (List.filter_sublist.map _)
    statsReference := fun stats member => by
      obtain ⟨present, kept⟩ := Table.mem_delete.mp member
      obtain ⟨user, inside, same⟩ := tables.statsReference stats present
      refine ⟨user, Table.mem_delete.mpr ⟨inside, ?_⟩, same⟩
      have spared := List.any_eq_false.mp kept user inside
      simpa [same] using spared }

/-- This statement rewrites the assignments of one link. A stored assignment needs its link. -/
def setAssignments (tables : Tables) (link : Link) (ids : Finset DiscordId) : Except DbError Tables :=
  if reference : ids ≠ ∅ → (tables.roleLinks.find link).isSome then
    .ok { tables with
      roleAssignments := Function.update tables.roleAssignments link ids
      assignmentsReference := fun other present => by
        by_cases same : other = link
        · subst same
          rw [Function.update_self] at present
          exact reference present
        · rw [Function.update_of_ne same] at present
          exact tables.assignmentsReference other present }
  else .error (.foreignKeyViolation "role_assignments_guild_id_role_id_fkey")

end Tables

end OsuPlayerRole
