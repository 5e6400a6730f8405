/-!
# The shutdown channel

A channel over which a signal without content reaches every receiver.  It keeps one signal: a receiver
that missed older ones is told once how many, and then reads the latest.

A receiver is known by its place in `receivers`, which never changes; the number there is the first
signal it has not consumed.  A signal without a receiver is seen by nobody, and a receiver never sees
what was sent before it subscribed.
-/

namespace Observability

/-- A channel: the signals sent so far, the handles that can send, and the receivers still held. -/
structure Channel where
  sent : Nat := 0
  senders : Nat := 1
  receivers : List (Option Nat) := []
  deriving DecidableEq, Repr, Inhabited

/-- What a receiver reads. -/
inductive Reception where
  /-- the latest signal -/
  | woken
  /-- so many signals were missed -/
  | lagged (missed : Nat)
  /-- nothing yet -/
  | empty
  /-- nothing, and nobody can send any more -/
  | closed
  deriving DecidableEq, Repr

namespace Channel

/-- A new receiver, by its place. -/
def subscribe (channel : Channel) : Channel × Nat :=
  ({ channel with receivers := channel.receivers ++ [some channel.sent] },
    channel.receivers.length)

/-- Gives a receiver up. -/
def unsubscribe (channel : Channel) (receiver : Nat) : Channel :=
  { channel with receivers := channel.receivers.set receiver none }

def receiverCount (channel : Channel) : Nat := channel.receivers.countP Option.isSome

/-- Sends the signal. -/
def send (channel : Channel) : Channel := { channel with sent := channel.sent + 1 }

/-- One more handle that can send. -/
def addSender (channel : Channel) : Channel := { channel with senders := channel.senders + 1 }

/-- Gives a handle up. -/
def dropSender (channel : Channel) : Channel := { channel with senders := channel.senders - 1 }

/-- What a receiver reads whose first unread signal is `next`, and its next one after that. -/
def read (channel : Channel) (next : Nat) : Reception × Nat :=
  let waiting := channel.sent - next
  if waiting = 0 then (if channel.senders = 0 then .closed else .empty, next)
  else if waiting = 1 then (.woken, channel.sent)
  else (.lagged (waiting - 1), channel.sent - 1)

/-- Reads what there is for a receiver. -/
def receive (channel : Channel) (receiver : Nat) : Reception × Channel :=
  match channel.receivers[receiver]? with
  | some (some next) =>
    let (reception, next) := channel.read next
    (reception, { channel with receivers := channel.receivers.set receiver (some next) })
  | _ => (.closed, channel)

end Channel

end Observability
