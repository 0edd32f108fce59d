/-
This file shows which outcomes a link job has when any of its operations may fail.
-/
import OsuPlayerRole.Proof.Sync.CleanLink
import OsuPlayerRole.Proof.Sync.Turns

namespace OsuPlayerRole.Sync

open Resumption Program RoleLogic RuleSql

section Due

variable (engines : Engines) (world : World) (link : Link)

end Due

section Ends

variable {engines : Engines} {crates : Crates} {turns : Nat → Turn} {world after : World} {link : Link}
  {history : History} {token : String} {ids : List DiscordId} {operation : SyncOp}

end Ends

section Job

variable {engines : Engines} {crates : Crates} {turns : Nat → Turn} {world : World} {link : Link}
  {history : History} {token : String} {ids : List DiscordId}

end Job

end OsuPlayerRole.Sync
