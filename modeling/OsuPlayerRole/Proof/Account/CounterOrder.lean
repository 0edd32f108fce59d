/-
This file shows when a stored counter keeps the order of the player's counters.
-/
import OsuPlayerRole.Library.SignedWrap
import OsuPlayerRole.Proof.Account.LinkAccount
import OsuPlayerRole.Proof.Sample

namespace OsuPlayerRole.Oauth

open Checked KeyedTable RuleSql

/-- These numbers of a payload are cast to a column of 32 bits. -/
inductive Counter where
  | followers
  | mappingFollowers
  | kudosu
  | rankedBeatmaps
  | lovedBeatmaps
  | pendingBeatmaps
  | graveyardBeatmaps
  | mappingPlaycount
  | replaysWatched
  | favourites
  | playCount
  | playTime
  | maxCombo
  | level
  | ssSilver
  | ss
  | sSilver
  | s
  | a
  | globalRank
  | countryRank
  deriving DecidableEq

namespace Counter

/-- A larger rank is a worse one, and it has no lower bound to keep. -/
def isRank : Counter → Bool
  | .globalRank | .countryRank => true
  | _ => false

section Payload

variable (user : Osu.OsuUser)

/-- A payload without the number has none. -/
def read : Counter → Option Int
  | .followers => user.followerCount
  | .mappingFollowers => user.mappingFollowerCount
  | .kudosu => user.kudosu.map Osu.Kudosu.total
  | .rankedBeatmaps => user.rankedBeatmapsetCount
  | .lovedBeatmaps => user.lovedBeatmapsetCount
  | .pendingBeatmaps => user.pendingBeatmapsetCount
  | .graveyardBeatmaps => user.graveyardBeatmapsetCount
  | .mappingPlaycount => user.beatmapPlaycountsCount
  | .replaysWatched => user.replaysWatchedByOthers
  | .favourites => user.favouriteBeatmapsetCount
  | .playCount => user.statistics.bind Osu.UserStatistics.playCount
  | .playTime => user.statistics.bind Osu.UserStatistics.playTime
  | .maxCombo => user.statistics.bind Osu.UserStatistics.maximumCombo
  | .level => (user.statistics.bind Osu.UserStatistics.level).bind Osu.Level.current
  | .ssSilver => (user.statistics.bind Osu.UserStatistics.gradeCounts).map Osu.GradeCounts.ssh
  | .ss => (user.statistics.bind Osu.UserStatistics.gradeCounts).map Osu.GradeCounts.ss
  | .sSilver => (user.statistics.bind Osu.UserStatistics.gradeCounts).map Osu.GradeCounts.sh
  | .s => (user.statistics.bind Osu.UserStatistics.gradeCounts).map Osu.GradeCounts.s
  | .a => (user.statistics.bind Osu.UserStatistics.gradeCounts).map Osu.GradeCounts.a
  | .globalRank => user.statistics.bind Osu.UserStatistics.globalRank
  | .countryRank => user.statistics.bind Osu.UserStatistics.countryRank

def changeStatistics (change : Osu.UserStatistics → Osu.UserStatistics) : Osu.OsuUser :=
  { user with statistics := user.statistics.map change }

def changeGrades (change : Osu.GradeCounts → Osu.GradeCounts) : Osu.OsuUser :=
  changeStatistics user fun statistics =>
    { statistics with gradeCounts := statistics.gradeCounts.map change }

/-- The payload with another number, and equal in all else. -/
def write (value : Int) : Counter → Osu.OsuUser
  | .followers => { user with followerCount := some value }
  | .mappingFollowers => { user with mappingFollowerCount := some value }
  | .kudosu => { user with kudosu := user.kudosu.map fun kudosu => { kudosu with total := value } }
  | .rankedBeatmaps => { user with rankedBeatmapsetCount := some value }
  | .lovedBeatmaps => { user with lovedBeatmapsetCount := some value }
  | .pendingBeatmaps => { user with pendingBeatmapsetCount := some value }
  | .graveyardBeatmaps => { user with graveyardBeatmapsetCount := some value }
  | .mappingPlaycount => { user with beatmapPlaycountsCount := some value }
  | .replaysWatched => { user with replaysWatchedByOthers := some value }
  | .favourites => { user with favouriteBeatmapsetCount := some value }
  | .playCount => changeStatistics user fun statistics => { statistics with playCount := some value }
  | .playTime => changeStatistics user fun statistics => { statistics with playTime := some value }
  | .maxCombo => changeStatistics user fun statistics => { statistics with maximumCombo := some value }
  | .level => changeStatistics user fun statistics =>
      { statistics with level := statistics.level.map fun level => { level with current := some value } }
  | .ssSilver => changeGrades user fun counts => { counts with ssh := value }
  | .ss => changeGrades user fun counts => { counts with ss := value }
  | .sSilver => changeGrades user fun counts => { counts with sh := value }
  | .s => changeGrades user fun counts => { counts with s := value }
  | .a => changeGrades user fun counts => { counts with a := value }
  | .globalRank => changeStatistics user fun statistics => { statistics with globalRank := some value }
  | .countryRank => changeStatistics user fun statistics => { statistics with countryRank := some value }

end Payload

/-- The play time is stored in hours. -/
def scaled (value : Int) : Counter → Int
  | .playTime => value.tdiv 3600
  | _ => value

/-- The column of the profile. -/
def profileColumn (row : OsuUser) : Counter → Option Int4
  | .followers => row.followerCount
  | .mappingFollowers => row.mappingFollowers
  | .kudosu => row.kudosuTotal
  | .rankedBeatmaps => row.rankedBeatmaps
  | .lovedBeatmaps => row.lovedBeatmaps
  | .pendingBeatmaps => row.pendingBeatmaps
  | .graveyardBeatmaps => row.graveyardBeatmaps
  | .mappingPlaycount => row.mappingPlaycount
  | .replaysWatched => row.replaysWatchedOthers
  | .favourites => row.favouriteBeatmapsets
  | _ => none

/-- The column of the statistics. -/
def statsColumn (row : OsuStats) : Counter → Option Int4
  | .playCount => row.playCount
  | .playTime => row.playTimeHours
  | .maxCombo => row.maxCombo
  | .level => row.levelInt
  | .ssSilver => row.countSsSilver
  | .ss => row.countSs
  | .sSilver => row.countSSilver
  | .s => row.countS
  | .a => row.countA
  | .globalRank => row.globalRank
  | .countryRank => row.countryRank
  | _ => none

/-- The statistics of a payload are stored by another statement than its profile. -/
def inStats : Counter → Bool
  | .playCount | .playTime | .maxCombo | .level | .ssSilver | .ss | .sSilver | .s | .a
  | .globalRank | .countryRank => true
  | _ => false

end Counter

/-- One execution of a statement for a Discord account and its osu! account. -/
structure Storing where
  parse : ParseInstant
  now : Timestamp
  discordId : DiscordId
  discordName : Option String
  osuUserId : OsuUserId
  mode : Mode

namespace Storing

variable (storing : Storing)

/-- The statement that stores the counter of the payload. -/
def upsert (counter : Counter) (user : Osu.OsuUser) (tables : Tables) : Except AppError Tables :=
  if counter.inStats then upsertStats storing.now storing.osuUserId storing.mode user tables
  else upsertUserProfile user storing.parse storing.now storing.discordId storing.discordName tables

/-- The stored column of the counter. -/
def stored (counter : Counter) (tables : Tables) : Option Int4 :=
  if counter.inStats then
    (tables.osuStats.find (storing.osuUserId, storing.mode)).bind fun row => counter.statsColumn row
  else (tables.osuUsers.find storing.discordId).bind fun row => counter.profileColumn row

end Storing

section Columns

variable {storing : Storing} {counter : Counter} {user : Osu.OsuUser} {value : Int}
  {tables after : Tables}

/-- The written number is read back. -/
theorem Counter.read_write {old : Int} (carried : counter.read user = some old) :
    counter.read (counter.write user value) = some value := by
  cases counter with
  | followers | mappingFollowers | rankedBeatmaps | lovedBeatmaps | pendingBeatmaps | graveyardBeatmaps
  | mappingPlaycount | replaysWatched | favourites => rfl
  | kudosu =>
      obtain ⟨kudosu, present, _⟩ := Option.map_eq_some_iff.mp carried
      simp only [read, write, present, Option.map_some]
  | playCount | playTime | maxCombo | globalRank | countryRank =>
      obtain ⟨statistics, present, _⟩ := Option.bind_eq_some_iff.mp carried
      simp only [read, write, changeStatistics, present, Option.map_some, Option.bind_some]
  | level =>
      obtain ⟨level, found, _⟩ := Option.bind_eq_some_iff.mp carried
      obtain ⟨statistics, present, given⟩ := Option.bind_eq_some_iff.mp found
      simp only [read, write, changeStatistics, present, given, Option.map_some, Option.bind_some]
  | ssSilver | ss | sSilver | s | a =>
      obtain ⟨counts, found, _⟩ := Option.map_eq_some_iff.mp carried
      obtain ⟨statistics, present, given⟩ := Option.bind_eq_some_iff.mp found
      simp only [read, write, changeGrades, changeStatistics, present, given, Option.map_some,
        Option.bind_some]

/-- The row of the INSERT has the cast number. -/
theorem Counter.profileColumn_row {now joined : Timestamp} {discordId : DiscordId}
    {discordName : Option String} {visited : Option Timestamp} {profile : Json.Jsonb}
    (side : counter.inStats = false) (carried : counter.read user = some value) :
    counter.profileColumn (profileRow user now discordId discordName joined visited profile) =
      some (.wrap (counter.scaled value)) := by
  cases counter with
  | kudosu =>
      obtain ⟨kudosu, present, rfl⟩ := Option.map_eq_some_iff.mp carried
      simp only [profileColumn, profileRow, Oauth.kudosu, present, scaled]
  | followers | mappingFollowers | rankedBeatmaps | lovedBeatmaps | pendingBeatmaps | graveyardBeatmaps
  | mappingPlaycount | replaysWatched | favourites =>
      simp only [read] at carried
      simp only [profileColumn, profileRow, counter, carried, Option.getD_some, scaled]
  | _ => cases side

/-- The row of a payload holds its counter, scaled and wrapped. -/
theorem Counter.statsColumn_row {now : Timestamp} {osuUserId : OsuUserId} {mode : Mode}
    (side : counter.inStats = true) (carried : counter.read user = some value) :
    counter.statsColumn (statsRow now osuUserId mode user) = some (.wrap (counter.scaled value)) := by
  cases counter with
  | playCount | playTime | maxCombo | level | globalRank | countryRank =>
      simp only [read] at carried
      simp only [statsColumn, statsRow, counter, carried, Option.map_some, Option.getD_some, scaled]
  | ssSilver | ss | sSilver | s | a =>
      simp only [read] at carried
      simp only [statsColumn, statsRow, counter, carried, Option.getD_some, scaled]
  | _ => cases side

/-- A merge takes the fresh counter of a profile. -/
theorem Counter.profileColumn_merge (counter : Counter) (fresh old : OsuUser) :
    counter.profileColumn (mergeProfile fresh old) = counter.profileColumn fresh := by
  cases counter <;> rfl

/-- A merge takes the fresh counter of a mode. -/
theorem Counter.statsColumn_merge (counter : Counter) (fresh old : OsuStats) :
    counter.statsColumn (mergeStats fresh old) = counter.statsColumn fresh := by
  cases counter <;> rfl

/-- After the upsert the profile's row holds the wrapped counter. -/
theorem stored_profile (side : counter.inStats = false) (carried : counter.read user = some value)
    (written : upsertUserProfile user storing.parse storing.now storing.discordId storing.discordName
      tables = .ok after) :
    (after.osuUsers.find storing.discordId).bind (fun row => counter.profileColumn row) =
      some (.wrap (counter.scaled value)) := by
  unfold upsertUserProfile at written
  split at written
  · cases written
  · rw [mapError_ok] at written
    obtain ⟨_, _, inserted⟩ := bind_ok written
    obtain ⟨_, _, stored⟩ := bind_ok inserted
    obtain ⟨profile, _, upserted⟩ := bind_ok stored
    rw [Tables.upsertOsuUser_users upserted, Table.find_upsert]
    refine (congrArg (Option.bind · _) (if_pos rfl)).trans ?_
    rw [Option.bind_some]
    cases (severOthers user storing.discordId tables).osuUsers.find storing.discordId with
    | none => exact Counter.profileColumn_row side carried
    | some old =>
        rw [Option.elim_some, Counter.profileColumn_merge]
        exact Counter.profileColumn_row side carried

/-- After the upsert the mode's row holds the wrapped counter. -/
theorem stored_stats (side : counter.inStats = true) (carried : counter.read user = some value)
    (written : upsertStats storing.now storing.osuUserId storing.mode user tables = .ok after) :
    (after.osuStats.find (storing.osuUserId, storing.mode)).bind (fun row => counter.statsColumn row) =
      some (.wrap (counter.scaled value)) := by
  unfold upsertStats at written
  dsimp only at written
  rw [mapError_ok] at written
  unfold Tables.upsertOsuStats at written
  split at written
  · cases written
    dsimp only
    rw [Table.find_upsert]
    refine (congrArg (Option.bind · _) (if_pos rfl)).trans ?_
    rw [Option.bind_some]
    cases tables.osuStats.find (storing.osuUserId, storing.mode) with
    | none => exact Counter.statsColumn_row side carried
    | some old =>
        rw [Option.elim_some, Counter.statsColumn_merge]
        exact Counter.statsColumn_row side carried
  · cases written

/-- The column has the low 32 bits of the number. -/
theorem stored_of_upsert (carried : counter.read user = some value)
    (written : storing.upsert counter user tables = .ok after) :
    storing.stored counter after = some (.wrap (counter.scaled value)) := by
  unfold Storing.upsert at written
  unfold Storing.stored
  cases side : counter.inStats with
  | true =>
      rw [side, if_pos rfl] at written
      rw [if_pos rfl]
      exact stored_stats side carried written
  | false =>
      rw [side, if_neg Bool.false_ne_true] at written
      rw [if_neg Bool.false_ne_true]
      exact stored_profile side carried written

end Columns

section Order

open SignedWrap

/-- The larger number has the larger column, and no number that is not negative has a negative one. -/
structure KeepsOrder (counter : Counter) (smaller larger : Int) (first second : Int4) : Prop where
  order : first.val ≤ second.val
  sign : counter.isRank = false → (0 ≤ smaller → 0 ≤ first.val) ∧ (0 ≤ larger → 0 ≤ second.val)

/-- The growth makes up for each bound of the 32 bits that it passes, and the sign bit is clear. -/
structure Counter.Fits (counter : Counter) (smaller larger : Int) : Prop where
  growth : 2 ^ 32 * (window (2 ^ 31) (counter.scaled larger) - window (2 ^ 31) (counter.scaled smaller)) ≤
    counter.scaled larger - counter.scaled smaller
  bit : counter.isRank = false → (0 ≤ smaller → counter.scaled smaller % 2 ^ 32 < 2 ^ 31) ∧
    (0 ≤ larger → counter.scaled larger % 2 ^ 32 < 2 ^ 31)

/-- Scaling keeps the order of the payloads. -/
theorem Counter.scaled_mono (counter : Counter) {smaller larger : Int} (grown : smaller ≤ larger) :
    counter.scaled smaller ≤ counter.scaled larger := by
  cases counter with
  | playTime => exact Int.tdiv_le_tdiv (by decide) grown
  | _ => exact grown

/-- Hours are nearer to zero than seconds. -/
theorem Counter.scaled_bounds (counter : Counter) (value : Int) :
    (0 ≤ value → 0 ≤ counter.scaled value ∧ counter.scaled value ≤ value) ∧
      (value ≤ 0 → value ≤ counter.scaled value ∧ counter.scaled value ≤ 0) := by
  cases counter with
  | playTime =>
      dsimp only [scaled]
      have hours {seconds : Int} (natural : 0 ≤ seconds) :
          0 ≤ seconds.tdiv 3600 ∧ seconds.tdiv 3600 ≤ seconds :=
        ⟨Int.tdiv_nonneg natural (by decide), Int.tdiv_le_self 3600 natural⟩
      refine ⟨hours, fun negative => ?_⟩
      have mirrored := hours (Int.neg_nonneg.mpr negative)
      rw [Int.neg_tdiv] at mirrored
      omega
  | _ => exact ⟨fun natural => ⟨natural, le_rfl⟩, fun negative => ⟨le_rfl, negative⟩⟩

/-- Numbers of 32 bits fit. -/
theorem Counter.fits_of_within {counter : Counter} {smaller larger : Int} (grown : smaller ≤ larger)
    (low : -2 ^ 31 ≤ smaller) (high : larger < 2 ^ 31) : counter.Fits smaller larger := by
  have ordered : counter.scaled smaller ≤ counter.scaled larger := counter.scaled_mono grown
  have least := counter.scaled_bounds smaller
  have most := counter.scaled_bounds larger
  have first : window (2 ^ 31) (counter.scaled smaller) = 0 := window_eq_zero (by omega) (by omega)
  have second : window (2 ^ 31) (counter.scaled larger) = 0 := window_eq_zero (by omega) (by omega)
  refine ⟨?_, fun _ => ⟨fun natural => ?_, fun natural => ?_⟩⟩
  · rw [first, second]
    omega
  · omega
  · omega

/-- Two stored payloads keep the order of a counter exactly when the counter fits. -/
theorem counters_keep_order_iff (counter : Counter) (storing other : Storing) (user : Osu.OsuUser)
    (smaller larger : Int) (tables before first second : Tables)
    (carried : counter.read user = some smaller)
    (storedFirst : storing.upsert counter user tables = .ok first)
    (storedSecond : other.upsert counter (counter.write user larger) before = .ok second) :
    (∃ less ∈ storing.stored counter first, ∃ more ∈ other.stored counter second,
      KeepsOrder counter smaller larger less more) ↔ counter.Fits smaller larger := by
  rw [stored_of_upsert carried storedFirst,
    stored_of_upsert (Counter.read_write carried) storedSecond]
  have order := @wrap_le_iff (2 ^ 31) (counter.scaled smaller) (counter.scaled larger)
  have sign : ∀ value, 0 ≤ (Int4.wrap value).val ↔ value % 2 ^ 32 < 2 ^ 31 :=
    fun value => @wrap_nonneg_iff (2 ^ 31) value (by decide)
  constructor
  · rintro ⟨less, stored, more, storedToo, kept⟩
    cases stored
    cases storedToo
    refine ⟨order.mp kept.order, fun count => ?_⟩
    obtain ⟨firstSign, secondSign⟩ := kept.sign count
    exact ⟨fun natural => (sign _).mp (firstSign natural), fun natural => (sign _).mp (secondSign natural)⟩
  · intro fits
    refine ⟨_, rfl, _, rfl, order.mpr fits.growth, fun count => ?_⟩
    obtain ⟨firstBit, secondBit⟩ := fits.bit count
    exact ⟨fun natural => (sign _).mpr (firstBit natural), fun natural => (sign _).mpr (secondBit natural)⟩

end Order

section Sample

/-- The payload with these followers. -/
def followed (followers : Int) : Osu.OsuUser :=
  { Sample.payload 7 with followerCount := some followers }

def storingOne : Storing where
  parse := Sample.parseInstant
  now := 0
  discordId := "1"
  discordName := none
  osuUserId := 7
  mode := .osu

theorem followed_stored {followers : Int} (storable : (followed followers).toValue.storable = true) :
    ∃ after, storingOne.upsert .followers (followed followers) Tables.empty = .ok after := by
  have parsed : Sample.parseInstant (followed followers).joinDate = .ok Sample.joinedAt := if_pos rfl
  have texts : (profileBinds (Sample.payload 7) "1" none).all Bind.sendable := by decide
  refine (upsertUserProfile_ok_iff parsed).mpr ⟨⟨texts, storable⟩, fun old found => ?_⟩
  cases found

/-- A player gains a follower. -/
theorem followers_keep_order :
    ∃ first second, storingOne.upsert .followers (followed 5) Tables.empty = .ok first ∧
      storingOne.upsert .followers (followed 6) Tables.empty = .ok second ∧
      ∃ less ∈ storingOne.stored .followers first, ∃ more ∈ storingOne.stored .followers second,
        KeepsOrder .followers 5 6 less more := by
  obtain ⟨first, storedFirst⟩ := @followed_stored 5 (by decide +kernel)
  obtain ⟨second, storedSecond⟩ := @followed_stored 6 (by decide +kernel)
  refine ⟨first, second, storedFirst, storedSecond, ?_⟩
  exact (counters_keep_order_iff .followers storingOne storingOne (followed 5) 5 6 Tables.empty
    Tables.empty first second rfl storedFirst storedSecond).mpr
    (Counter.fits_of_within (by decide) (by decide) (by decide))

/-- The first follower beyond the column makes the count negative. -/
theorem followers_wrap_around :
    ∃ first second, storingOne.upsert .followers (followed 2147483647) Tables.empty = .ok first ∧
      storingOne.upsert .followers (followed 2147483648) Tables.empty = .ok second ∧
      ¬∃ less ∈ storingOne.stored .followers first, ∃ more ∈ storingOne.stored .followers second,
        KeepsOrder .followers 2147483647 2147483648 less more := by
  obtain ⟨first, storedFirst⟩ := @followed_stored 2147483647 (by decide +kernel)
  obtain ⟨second, storedSecond⟩ := @followed_stored 2147483648 (by decide +kernel)
  refine ⟨first, second, storedFirst, storedSecond, ?_⟩
  rintro ⟨less, _, more, stored, kept⟩
  rw [@stored_of_upsert storingOne .followers (followed 2147483648) 2147483648 _ _ rfl storedSecond]
    at stored
  cases stored
  have negative : (Int4.wrap (Counter.scaled 2147483648 .followers)).val = -2147483648 := by decide
  exact absurd ((kept.sign rfl).2 (by decide)) (by rw [negative]; decide)

end Sample

end OsuPlayerRole.Oauth
