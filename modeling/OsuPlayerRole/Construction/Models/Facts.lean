/-
This file gives the facts of one player that a condition reads.
-/
import OsuPlayerRole.Construction.Database

namespace OsuPlayerRole

structure Facts where
  isSupporter : Bool
  isActive : Bool
  isRestricted : Bool
  hasBadge : Bool
  hasGroupBadge : Bool
  osuJoinedAt : Option Timestamp
  lastVisitAt : Option Timestamp
  badgeCount : Int
  followerCount : Int
  mappingSubscribers : Int
  kudosu : Int
  rankedBeatmaps : Int
  lovedBeatmaps : Int
  mappingPlaycount : Int
  replaysWatchedByOthers : Int
  favouriteCount : Int
  countryCode : Option String
  username : String
  groups : List String
  playstyles : List String
  globalRank : Option Int
  countryRank : Option Int
  performancePoints : Int
  playCount : Int
  playTimeHours : Int
  totalScore : Int
  rankedScore : Int
  hitAccuracy : Int
  maxCombo : Int
  levelInt : Int
  ssCount : Int
  sCount : Int
  aCount : Int

end OsuPlayerRole
