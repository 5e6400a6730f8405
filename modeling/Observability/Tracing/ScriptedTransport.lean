import Observability.Transport
import Observability.Span.Attribute

/-!
# Scripted transports

A base transport that notes each request and answers by script.
-/

namespace Observability

/-- How a scripted transport answers. -/
inductive TransportScript where
  /-- with a status, and with the correlation id header of the request if there is one -/
  | echoes (status : HttpStatus)
  | fails (error : String)
  /-- is never ready -/
  | refuses (error : String)
  deriving DecidableEq, Repr

/-- A base transport that answers by script. -/
structure ScriptedTransport where
  name : String
  script : TransportScript
  deriving DecidableEq, Repr

namespace ScriptedTransport

def ready (transport : ScriptedTransport) : Act (Except String Unit) :=
  match transport.script with
  | .refuses error => return .error error
  | _ => return .ok ()

/-- The headers of the answer. -/
def echo (headers : Headers) : Headers :=
  match headers.first? correlationKey with
  | some value => [(correlationKey, value)]
  | none => []

def call (transport : ScriptedTransport) (request : Request) : Act (Except String Response) := do
  Act.observe (.request transport.name request.method request.uri.text request.headers
    (request.context.map Context.summary))
  match transport.script with
  | .echoes status => return .ok ⟨status, echo request.headers⟩
  | .fails error | .refuses error => return .error error

instance : BaseTransport ScriptedTransport where
  ready := ready
  call := call

/-- A request is noted, and the script says what it is answered. -/
theorem runOn_call (transport : ScriptedTransport) (request : Request) (c : Collector) :
    Act.runOn (transport.call request) c =
      (.ok (match transport.script with
        | .echoes status => .ok ⟨status, echo request.headers⟩
        | .fails error | .refuses error => .error error),
        { c with
          journal := c.journal ++ [.request transport.name request.method request.uri.text
            request.headers (request.context.map Context.summary)] }) := by
  rw [call, Act.observe, Act.runOn_bind, Act.runOn_step]
  cases transport.script <;> rfl

end ScriptedTransport

end Observability
