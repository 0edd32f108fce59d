/-
This file gives the requests that callbacks and refreshes send to the osu! API.
-/
import OsuPlayerRole.Construction.Routes.Oauth
import OsuPlayerRole.Construction.Routes.Verify
import OsuPlayerRole.Construction.Routes.WebWorld
import OsuPlayerRole.Library.EventRun
import OsuPlayerRole.Library.TokenBucket

namespace OsuPlayerRole

namespace Osu

/-- Fifty requests per minute, and a burst of fifty. -/
def quota : TokenBucket.Quota where
  burst := 50
  period := 1200000
  someBurst := by decide
  somePeriod := by decide

/-- The credentials of a client are read where it is built. -/
structure OsuClient where
  rateLimiter : TokenBucket.Bucket

def OsuClient.new : OsuClient := ⟨.fresh⟩

/-- A request waits for its permit. -/
def OsuClient.permit (now : Timestamp) (client : OsuClient) : Option OsuClient :=
  (TokenBucket.check quota now client.rateLimiter).map OsuClient.mk

end Osu

namespace OsuTraffic

open Web Resumption Osu

/-- These methods of a client send a request to the osu! API. -/
def sendsRequest : WebOp → Bool
  | .exchangeCode _ _ _ => true
  | .clientCredentialsToken => true
  | .getMe _ => true
  | .getUser _ _ _ => true
  | _ => false

/-- A callback or a refresh builds a client of its own. -/
structure Call where
  program : WebProgram Unit
  client : OsuClient

/-- A request was sent at this instant by the call at this index. -/
structure Sent where
  instant : Timestamp
  index : Nat

structure Traffic where
  tables : Tables
  now : Timestamp
  calls : List Call
  sent : List Sent

inductive Event where
  | tick (elapsed : Nat)
  | callback (query : Oauth.CallbackQuery)
  | refresh (discordId : DiscordId) (osuUserId : OsuUserId)
  | advance (index : Nat) (outside : Outside)
  /-- Other requests and workers change the tables. -/
  | elsewhere (tables : Tables)

section

variable (state : AppState)

def callback (query : Oauth.CallbackQuery) : Call :=
  ⟨do let _ ← Oauth.callback state query; return (), .new⟩

def refresh (discordId : DiscordId) (osuUserId : OsuUserId) : Call :=
  ⟨Oauth.refreshUserFull state discordId osuUserId, .new⟩

/-- A call performs its next operation. A request is sent only with a permit of its own client. -/
def Traffic.advance (traffic : Traffic) (index : Nat) (outside : Outside) (call : Call) :
    Option Traffic :=
  match call.program with
  | .call operation next =>
      let answered := answer state { outside with now := traffic.now } traffic.tables operation
      let moved := fun client => { traffic with
        tables := answered.2
        calls := traffic.calls.set index ⟨next answered.1, client⟩ }
      if sendsRequest operation then
        (call.client.permit traffic.now).map fun client =>
          { moved client with sent := traffic.sent ++ [⟨traffic.now, index⟩] }
      else some (moved call.client)
  | _ => none

def Traffic.step (traffic : Traffic) : Event → Option Traffic
  | .tick elapsed => some { traffic with now := traffic.now + elapsed }
  | .callback query => some { traffic with calls := traffic.calls ++ [callback state query] }
  | .refresh discordId osuUserId =>
      some { traffic with calls := traffic.calls ++ [refresh state discordId osuUserId] }
  | .advance index outside => traffic.calls[index]?.bind (traffic.advance state index outside)
  | .elsewhere tables => some { traffic with tables }

end

def Traffic.start (tables : Tables) (now : Timestamp) : Traffic := ⟨tables, now, [], []⟩

/-- The call at the index waits to send a request. -/
def Traffic.sends (traffic : Traffic) (index : Nat) : Bool :=
  (traffic.calls[index]?.bind fun call => call.program.head?).any sendsRequest

end OsuTraffic

end OsuPlayerRole
