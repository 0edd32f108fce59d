/-
This file gives the server with the states of its authorizations and a log of what its requests do.
-/
import OsuPlayerRole.Construction.Routes.Serving

namespace OsuPlayerRole

/-- This statement of the reconciliation removes expired states. -/
def Reconcile.gcOauthStates (now : Timestamp) (tables : Tables) : Tables :=
  { tables with osuOauthStates := tables.osuOauthStates.delete fun row => row.expiresAt < now }

namespace OauthFlow

open Web Serving Resumption

/-- The request at the index has performed an operation. -/
structure Entry where
  index : Nat
  moment : Moment

/-- The log lists the operations of all requests in their order. -/
structure Flow where
  service : Service
  log : List Entry

/-- A request stops for good when it is not advanced again. -/
inductive Event where
  | arrive (headers : Headers) (request : Request)
  | advance (index : Nat) (outside : Outside)
  | gc (now : Timestamp)
  /-- A worker changes the other tables. -/
  | elsewhere (tables : Tables)

namespace Flow

def served (flow : Flow) : Event → Serving.Event
  | .arrive headers request => .arrive headers request
  | .advance index outside => .advance index outside
  | .gc now => .elsewhere (Reconcile.gcOauthStates now flow.service.tables)
  | .elsewhere tables =>
      .elsewhere { tables with osuOauthStates := flow.service.tables.osuOauthStates }

/-- The operation that the event performs. -/
def entry? (flow : Flow) : Event → Option Entry
  | .advance index outside =>
      (flow.service.handlings[index]?.bind fun handling => handling.program.head?).map fun operation =>
        ⟨index, flow.service.tables, outside, operation⟩
  | _ => none

def step (state : AppState) (flow : Flow) (event : Event) : Option Flow :=
  (flow.service.step state (flow.served event)).map fun service =>
    ⟨service, flow.log ++ (flow.entry? event).toList⟩

def start (tables : Tables) : Flow := ⟨Service.start tables, []⟩

/-- The headers and the request at the index. -/
def asked (flow : Flow) (index : Nat) : Option (Headers × Request) :=
  flow.service.handlings[index]?.map fun handling => (handling.headers, handling.request)

end Flow

/-- The state that the entry draws from the random generator. -/
def Entry.drawn (entry : Entry) : Option String :=
  match entry.moment.operation with
  | .newState => some entry.moment.outside.newState
  | _ => none

/-- No state is drawn twice. -/
def DrawsFresh (flow : Flow) (event : Event) : Prop :=
  ∀ entry ∈ flow.entry? event, ∀ token ∈ entry.drawn, ∀ earlier ∈ flow.log, token ∉ earlier.drawn

instance (flow : Flow) (event : Event) : Decidable (DrawsFresh flow event) :=
  inferInstanceAs (Decidable (∀ entry ∈ flow.entry? event, ∀ token ∈ entry.drawn,
    ∀ earlier ∈ flow.log, token ∉ earlier.drawn))

end OauthFlow

end OsuPlayerRole
