import Observability.Collector

/-!
# Shutdown handles

A shutdown coordinator and its copies send over one channel; each receiver belongs to one task.  Handles
say where in the collector their channel lies.
-/

namespace Observability

/-- A handle that can trigger the shutdown. -/
structure Shutdown where
  channel : Nat
  deriving DecidableEq, Repr

/-- A handle that waits for the shutdown. -/
structure ShutdownReceiver where
  channel : Nat
  place : Nat
  deriving DecidableEq, Repr

/-- A step on one channel. -/
def Act.onChannel {α : Type} (index : Nat) (fallback : α) (f : Channel → α × Channel) : Act α :=
  Act.step fun c =>
    match c.channels[index]? with
    | none => (fallback, c)
    | some channel =>
      let (a, after) := f channel
      (a, { c with channels := c.channels.set index after })

namespace Shutdown

/-- A coordinator of a new channel. -/
def create : Act Shutdown :=
  Act.step fun c => (⟨c.channels.length⟩, { c with channels := c.channels ++ [{}] })

/-- Another handle of the same channel. -/
def copy (shutdown : Shutdown) : Act Shutdown :=
  Act.onChannel shutdown.channel shutdown fun ch => (shutdown, ch.addSender)

/-- Gives the handle up. -/
def drop (shutdown : Shutdown) : Act Unit :=
  Act.onChannel shutdown.channel () fun ch => ((), ch.dropSender)

/-- A new receiver, which sees only what is triggered from now on. -/
def subscribe (shutdown : Shutdown) : Act ShutdownReceiver :=
  Act.onChannel shutdown.channel ⟨shutdown.channel, 0⟩ fun ch =>
    let (after, place) := ch.subscribe
    (⟨shutdown.channel, place⟩, after)

/-- Wakes every receiver; does nothing if there is none. -/
def trigger (shutdown : Shutdown) : Act Unit :=
  Act.onChannel shutdown.channel () fun ch => ((), ch.send)

/-- How many receivers are held. -/
def receiverCount (shutdown : Shutdown) : Act Nat :=
  Act.onChannel shutdown.channel 0 fun ch => (ch.receiverCount, ch)

end Shutdown

namespace ShutdownReceiver

/-- Reads without waiting. -/
def receive (receiver : ShutdownReceiver) : Act Reception :=
  Act.onChannel receiver.channel .closed fun ch => ch.receive receiver.place

/-- Gives the receiver up. -/
def drop (receiver : ShutdownReceiver) : Act Unit :=
  Act.onChannel receiver.channel () fun ch => ((), ch.unsubscribe receiver.place)

/-- Giving a receiver up shows in the channels only. -/
theorem exists_runOn_drop (receiver : ShutdownReceiver) (c : Collector) :
    ∃ channels, Act.runOn receiver.drop c = (.ok (), { c with channels }) := by
  rw [drop, Act.onChannel, Act.runOn_step]
  cases c.channels[receiver.channel]? with
  | none => exact ⟨c.channels, rfl⟩
  | some channel => exact ⟨_, rfl⟩

end ShutdownReceiver

end Observability
