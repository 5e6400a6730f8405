/-!
# Errors of tracer providers
-/

namespace Observability

/-- Why a tracer provider cannot be made or shut down. -/
inductive ProviderError where
  | invalidConfig (reason : String)
  | alreadyShutDown
  deriving DecidableEq, Repr

def ProviderError.message : ProviderError → String
  | .invalidConfig reason => s!"invalid provider configuration: {reason}"
  | .alreadyShutDown => "tracer provider already shut down"

end Observability
