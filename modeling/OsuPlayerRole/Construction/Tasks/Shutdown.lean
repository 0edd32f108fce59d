/-
This file gives the receiver by which a task learns of the shutdown.
-/

namespace OsuPlayerRole.Shutdown

/-- The buffer of the channel holds one message. -/
def capacity : Nat := 1

/-- The guard counts the messages that its receiver has not read. The sender stays alive. -/
structure Guard where
  unread : Nat
  deriving DecidableEq

/-- A new guard does not see the messages before it. -/
def subscribe : Guard := ⟨0⟩

def Guard.trigger (guard : Guard) : Guard := ⟨guard.unread + 1⟩

/-- A receiver that lags behind the buffer moves on to its oldest message. -/
inductive Received where
  | message
  | empty
  | lagged

def Guard.tryRecv (guard : Guard) : Received × Guard :=
  if guard.unread = 0 then (.empty, guard)
  else if guard.unread > capacity then (.lagged, ⟨capacity⟩)
  else (.message, ⟨guard.unread - 1⟩)

/-- Only a message that is read tells of the shutdown. -/
def Guard.isTriggered (guard : Guard) : Bool × Guard :=
  match guard.tryRecv with
  | (.message, after) => (true, after)
  | (_, after) => (false, after)

/-- A wait goes on while there is nothing to read, and any answer ends it. -/
def Guard.wait (guard : Guard) : Option Guard :=
  match guard.tryRecv with
  | (.empty, _) => none
  | (_, after) => some after

end OsuPlayerRole.Shutdown
