import Observability.Transport

/-!
# Requests on their way

A request is not answered at one go: between the span that a layer starts and the end of that span other
requests have their turns, and a request may be given up on its way.

* `Journey φ β` is a request on its way, with the layers that it has entered and not left.
* `Journey.advance` takes one step: a layer is entered, the base answers, or a layer is left.

`travel_start` says that a request which takes all its steps without a break is a `Transport.call`.
-/

namespace Observability

/-- Which way a request goes. -/
inductive Heading (φ β : Type) where
  /-- towards the base, through what lies ahead -/
  | inward (ahead : Transport φ β) (request : Request)
  /-- back to the caller, with the answer -/
  | outward (outcome : Except String Response)

/-- A request on its way.  `entered` are the layers that started their span and did not end it, the
innermost first, each with the context of its span. -/
structure Journey (φ β : Type) where
  entered : List (φ × Context) := []
  heading : Heading φ β

/-- What a step does to the span of a layer. -/
inductive LayerEvent where
  | entered (ctx : Context)
  | completed (ctx : Context) (outcome : Except String Response)

/-- How many layers there are around the base. -/
def Transport.depth {φ β : Type} : Transport φ β → Nat
  | .base _ => 0
  | .traced _ inner => inner.depth + 1

namespace Journey

variable {φ β : Type}

/-- A request that is about to be sent. -/
def start (transport : Transport φ β) (request : Request) : Journey φ β :=
  { heading := .inward transport request }

/-- Whether the caller has the answer. -/
def isDone : Journey φ β → Bool
  | ⟨[], .outward _⟩ => true
  | _ => false

variable [BaseTransport β] [TracingFacility φ β]

/-- One step.  A request that is done stays as it is. -/
def advance : Journey φ β → Act (Journey φ β × Option LayerEvent)
  | ⟨entered, .inward (.base transport) request⟩ => do
    let outcome ← BaseTransport.call transport request
    return (⟨entered, .outward outcome⟩, none)
  | ⟨entered, .inward (.traced facility inner) request⟩ => do
    let (ctx, request) ← Transport.openSpan β facility request
    return (⟨(facility, ctx) :: entered, .inward inner request⟩, some (.entered ctx))
  | ⟨(facility, ctx) :: entered, .outward outcome⟩ => do
    Transport.closeSpan β facility ctx outcome
    return (⟨entered, .outward outcome⟩, some (.completed ctx outcome))
  | ⟨[], .outward outcome⟩ => return (⟨[], .outward outcome⟩, none)

/-- So many steps without a break. -/
def travel : Nat → Journey φ β → Act (Journey φ β)
  | 0, journey => return journey
  | count + 1, journey => do
    let (next, _) ← journey.advance
    travel count next

/-! ## A request without a break -/

theorem travel_succ (count : Nat) (journey : Journey φ β) :
    travel (count + 1) journey = (do
      let (next, _) ← journey.advance
      travel count next) := rfl

/-- All the steps to the base and back again. -/
theorem travel_inward (transport : Transport φ β) (count : Nat) (entered : List (φ × Context))
    (request : Request) :
    travel (count + (2 * transport.depth + 1)) ⟨entered, .inward transport request⟩ = (do
      let outcome ← transport.call request
      travel count ⟨entered, .outward outcome⟩) := by
  induction transport generalizing count entered request with
  | base transport => simp [Transport.depth, Transport.call, travel, advance]
  | traced facility inner ih =>
    -- the last of the steps leaves the layer that the first one entered
    have hcount : count + (2 * (inner.depth + 1) + 1) =
        ((count + 1) + (2 * inner.depth + 1)) + 1 := by omega
    rw [Transport.depth, hcount, travel_succ]
    simp only [advance, Transport.call, bind_assoc, pure_bind, ih]
    simp only [travel_succ, advance, bind_assoc, pure_bind]

/-- **Requests that take their steps without a break.**  Two steps for each layer and one for the base
make the call, and the caller then has its outcome. -/
theorem travel_start (transport : Transport φ β) (request : Request) :
    travel (2 * transport.depth + 1) (start transport request) = (do
      let outcome ← transport.call request
      return ⟨[], .outward outcome⟩) := by
  simpa [start, travel] using travel_inward transport 0 [] request

end Journey

end Observability
