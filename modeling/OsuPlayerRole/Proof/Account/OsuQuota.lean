/-
This file shows when all requests to the osu! API keep to one quota.
-/
import OsuPlayerRole.Construction.Tasks.OsuTraffic
import OsuPlayerRole.Library.SharedLog
import OsuPlayerRole.Proof.Sample

namespace OsuPlayerRole.OsuTraffic

open Web Osu Resumption TokenBucket SharedLog

/-- The instants of all requests of the process. -/
def Traffic.instants (traffic : Traffic) : List Timestamp := traffic.sent.map Sent.instant

/-- The requests of the minute up to now. -/
def Traffic.recent (traffic : Traffic) : Nat :=
  since (traffic.now - quota.burst * quota.period + 1) traffic.instants

/-- A request goes through the client of all requests before it, or few of them are recent. This asks for
more than the quota, which lets a second client send again before the minute of a burst is over. -/
def Unhurried (traffic : Traffic) : Event → Prop
  | .advance index _ => traffic.sends index = true →
      (∀ sent ∈ traffic.sent, sent.index = index) ∨ traffic.recent < 50
  | _ => True

instance (traffic : Traffic) : ∀ event, Decidable (Unhurried traffic event)
  | .advance index _ => inferInstanceAs (Decidable (traffic.sends index = true →
      (∀ sent ∈ traffic.sent, sent.index = index) ∨ traffic.recent < 50))
  | .tick _ | .callback _ | .refresh _ _ | .elsewhere _ => isTrue trivial

section Steps

variable {state : AppState} {traffic after : Traffic}

/-- The instants of the requests of one call. -/
def Traffic.own (traffic : Traffic) (index : Nat) : List Timestamp :=
  (past Sent.index traffic.sent index).map Sent.instant

/-- The requests keep to the quota, and each client has charged its own ones. -/
structure Paced (traffic : Traffic) : Prop where
  bounded : Bounded quota traffic.instants
  earlier : ∀ instant ∈ traffic.instants, instant ≤ traffic.now
  charged : ∀ index call, traffic.calls[index]? = some call →
    Charges quota call.client.rateLimiter (traffic.own index)
  known : ∀ sent ∈ traffic.sent, sent.index < traffic.calls.length

/-- What one operation of a call does. -/
inductive Advances (traffic : Traffic) (index : Nat) : Traffic → Prop where
  | silent (call : Call) (tables : Tables) (program : WebProgram Unit)
      (present : traffic.calls[index]? = some call) : Advances traffic index
        { traffic with tables, calls := traffic.calls.set index ⟨program, call.client⟩ }
  | sent (call : Call) (tables : Tables) (program : WebProgram Unit) (client : OsuClient)
      (present : traffic.calls[index]? = some call) (sends : traffic.sends index = true)
      (permitted : call.client.permit traffic.now = some client) : Advances traffic index
        { traffic with
          tables
          calls := traffic.calls.set index ⟨program, client⟩
          sent := traffic.sent ++ [⟨traffic.now, index⟩] }

theorem advances_of_step {index : Nat} {outside : Outside}
    (stepped : traffic.step state (.advance index outside) = some after) : Advances traffic index after := by
  obtain ⟨call, present, advanced⟩ := Option.bind_eq_some_iff.mp stepped
  unfold Traffic.advance at advanced
  split at advanced
  · next operation next waiting =>
      dsimp only at advanced
      split at advanced
      · next sending =>
          obtain ⟨client, permitted, rfl⟩ := Option.map_eq_some_iff.mp advanced
          have sends : traffic.sends index = true := by
            simp only [Traffic.sends, present, Option.bind_some, waiting, Program.head?, Option.any_some,
              sending]
          exact .sent call _ _ client present sends permitted
      · cases advanced
        exact .silent call _ _ present
  · cases advanced

/-- A permit of the client is a permit of its limiter. -/
theorem permit_ok {now : Timestamp} {client permitted : OsuClient}
    (granted : client.permit now = some permitted) :
    check quota now client.rateLimiter = some permitted.rateLimiter := by
  obtain ⟨bucket, checked, rfl⟩ := Option.map_eq_some_iff.mp granted
  exact checked

/-- A request that fits leaves the requests paced. -/
theorem paced_advances {index : Nat} (paced : Paced traffic)
    (unhurried : traffic.sends index = true →
      (∀ sent ∈ traffic.sent, sent.index = index) ∨ traffic.recent < 50)
    (advances : Advances traffic index after) : Paced after := by
  cases advances with
  | silent call tables program present =>
      refine ⟨paced.bounded, paced.earlier, fun place other found => ?_, fun sent member => ?_⟩
      · obtain ⟨rfl, rfl⟩ | ⟨_, old⟩ := found_set found
        · exact paced.charged index call present
        · exact paced.charged place other old
      · rw [List.length_set]
        exact paced.known sent member
  | sent call tables program client present sends permitted =>
      have granted := permit_ok permitted
      have charged := paced.charged index call present
      have instants : List.map Sent.instant (traffic.sent ++ [⟨traffic.now, index⟩]) =
          traffic.instants ++ [traffic.now] := List.map_append
      refine ⟨?_, fun instant member => ?_, fun place other found => ?_, fun sent member => ?_⟩
      · unfold Traffic.instants
        rw [instants]
        refine bounded_append paced.bounded (fun start order => ?_) paced.earlier
        obtain alone | few := unhurried sends
        · -- All requests are those of this client, and its limiter bounds them.
          have whole : traffic.own index = traffic.instants := by
            have all : past Sent.index traffic.sent index = traffic.sent :=
              List.filter_eq_self.mpr fun sent member => decide_eq_true (alone sent member)
            rw [Traffic.own, all, Traffic.instants]
          rw [whole] at charged
          exact since_of_check charged granted order
        · exact since_of_few paced.bounded (Int.ofNat_lt.mpr few) order
      · unfold Traffic.instants at member
        rw [instants] at member
        rcases List.mem_append.mp member with old | new
        · exact paced.earlier instant old
        · exact (List.mem_singleton.mp new).le
      · obtain ⟨rfl, rfl⟩ | ⟨different, old⟩ := found_set found
        · have grown : past Sent.index (traffic.sent ++ [⟨traffic.now, index⟩]) index =
              past Sent.index traffic.sent index ++ [⟨traffic.now, index⟩] :=
            @past_append_self _ Sent.index traffic.sent ⟨traffic.now, index⟩
          rw [Traffic.own, grown, List.map_append]
          exact charges_check charged granted
        · rw [Traffic.own, @past_append_of_ne _ Sent.index traffic.sent ⟨traffic.now, index⟩ place different]
          exact paced.charged place other old
      · rw [List.length_set]
        rcases List.mem_append.mp member with old | new
        · exact paced.known sent old
        · rw [List.mem_singleton.mp new]
          exact (List.getElem?_eq_some_iff.mp present).1

/-- A new call has sent nothing. -/
theorem paced_begun {call : Call} (paced : Paced traffic) (unused : call.client = .new) :
    Paced { traffic with calls := traffic.calls ++ [call] } := by
  refine ⟨paced.bounded, paced.earlier, fun place other found => ?_, fun sent member => ?_⟩
  · obtain old | ⟨rfl, rfl⟩ := found_append found
    · exact paced.charged place other old
    · have silent : past Sent.index traffic.sent traffic.calls.length = [] :=
        past_eq_nil fun sent member => Nat.ne_of_lt (paced.known sent member)
      rw [Traffic.own, silent, unused]
      exact charges_fresh
  · rw [List.length_append]
    exact Nat.lt_add_right _ (paced.known sent member)

theorem paced_step {event : Event} (paced : Paced traffic) (unhurried : Unhurried traffic event)
    (stepped : traffic.step state event = some after) : Paced after := by
  cases event with
  | tick elapsed =>
      cases stepped
      refine ⟨paced.bounded, fun instant member => ?_, paced.charged, paced.known⟩
      exact (paced.earlier instant member).trans (Int.le_add_of_nonneg_right (Int.natCast_nonneg elapsed))
  | callback query | refresh discordId osuUserId =>
      cases stepped
      exact paced_begun paced rfl
  | advance index outside => exact paced_advances paced unhurried (advances_of_step stepped)
  | elsewhere tables =>
      cases stepped
      exact ⟨paced.bounded, paced.earlier, paced.charged, paced.known⟩

end Steps

section Run

/-- While no second client hurries, all requests of the process keep to one quota. -/
theorem one_quota (state : AppState) (tables : Tables) (now : Timestamp) (events : List Event)
    (last : Traffic)
    (unhurried : EventRun.Guarded (Traffic.step state) Unhurried (Traffic.start tables now) events)
    (ran : EventRun.run (Traffic.step state) (Traffic.start tables now) events = some last) :
    Bounded quota last.instants := by
  have start : Paced (Traffic.start tables now) :=
    { bounded := bounded_nil
      earlier := fun _ impossible => absurd impossible List.not_mem_nil
      charged := fun _ _ impossible => by cases impossible
      known := fun _ impossible => absurd impossible List.not_mem_nil }
  have paced : Paced last := EventRun.run_invariant Paced
    (fun _ _ _ paced unhurried stepped => paced_step paced unhurried stepped) start unhurried ran
  exact paced.bounded

end Run

section Sample

/-- The service answers every request at once. -/
def answering : Outside :=
  { Sample.alone 0 with
    clientCredentialsToken := .ok "app"
    getUser := fun _ _ _ => .ok (Sample.payload 7) }

/-- The member is refreshed, up to its last request. -/
def refreshed (index : Nat) : List Event :=
  .refresh "1" 7 :: List.replicate 6 (.advance index answering)

/-- Eight refreshes in one minute are few. -/
theorem eight_refreshes_keep_quota :
    ∃ last, EventRun.run (Traffic.step Sample.appState) (Traffic.start Sample.linkedPlayer 0)
      ((List.range 8).flatMap refreshed) = some last ∧ last.sent.length = 48 ∧
        Bounded quota last.instants := by
  have runs : (EventRun.run (Traffic.step Sample.appState) (Traffic.start Sample.linkedPlayer 0)
      ((List.range 8).flatMap refreshed)).map (fun last => last.sent.length) = some 48 := by
    decide +kernel
  obtain ⟨last, ran, count⟩ := Option.map_eq_some_iff.mp runs
  refine ⟨last, ran, count, ?_⟩
  exact one_quota Sample.appState Sample.linkedPlayer 0 _ last (by decide +kernel) ran

/-- Nine refreshes at one instant send 54 requests, each with a permit of its own client. -/
theorem nine_refreshes_exceed_quota :
    ∃ last, EventRun.run (Traffic.step Sample.appState) (Traffic.start Sample.linkedPlayer 0)
      ((List.range 9).flatMap refreshed) = some last ∧ ¬Bounded quota last.instants := by
  have runs : (EventRun.run (Traffic.step Sample.appState) (Traffic.start Sample.linkedPlayer 0)
      ((List.range 9).flatMap refreshed)).map Traffic.instants = some (List.replicate 54 0) := by
    decide +kernel
  obtain ⟨last, ran, instants⟩ := Option.map_eq_some_iff.mp runs
  refine ⟨last, ran, fun bounded => ?_⟩
  rw [instants] at bounded
  exact absurd (bounded 0 0 le_rfl) (by decide)

end Sample

end OsuPlayerRole.OsuTraffic
