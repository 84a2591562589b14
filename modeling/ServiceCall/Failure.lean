import ServiceCall.ServiceAccount.Token

/-!
# Failures

What can go wrong outside of a single invocation: in the settings, on the command line, in reading
and writing. Outcomes of invocations are envelopes and not failures.
-/

namespace ServiceCall

inductive Failure where
  | config (what : String)
  | unknownConnector (name : String)
  | invalidArgs (what : String)
  | auth (fault : AuthFault)
  | io (what : String)
  | json (what : String)
  | http (what : String)
  | toml
  deriving DecidableEq

namespace Failure

def message : Failure → String
  | config what => "Configuration error: " ++ what
  | unknownConnector name => "Unknown connector: " ++ name
  | invalidArgs what => "Invalid arguments: " ++ what
  | auth fault => "Authentication error: " ++ fault.message
  | io what => "IO error: " ++ what
  | json what => "JSON error: " ++ what
  | http what => "HTTP error: " ++ what
  | toml => "TOML deserialize error"

/-- Arguments that are neither an object nor null. -/
def ofArgsKind (kind : String) : Failure := .invalidArgs ("expected a JSON object, got " ++ kind)

end Failure

end ServiceCall
