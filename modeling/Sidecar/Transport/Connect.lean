/-
# Connecting

The ways in which one attempt to connect to an endpoint can fail.
-/
import Sidecar.Duration
import Sidecar.SystemError

namespace Sidecar

/-- Why an attempt to connect failed. -/
inductive ConnectError where
  | refused (target : String)
  | notFound (target : String)
  | timedOut (target : String) (after : Duration)
  | system (target : String) (cause : SystemError)
  /-- Standard input and output come with the process. -/
  | stdioNotConnectable
  deriving DecidableEq, Repr

namespace ConnectError

def message : ConnectError → String
  | refused target => s!"connection to {target} refused"
  | notFound target => s!"nothing listening at {target}"
  | timedOut target after => s!"connecting to {target} timed out after {after.render}"
  | system target cause => s!"connecting to {target}: {cause.message}"
  | stdioNotConnectable => "stdio endpoints are connected through the process pipes"

/-- The error that a system error comes to: refusal and absence are told apart. -/
def ofSystem (target : String) : SystemError → ConnectError
  | .connectionRefused => refused target
  | .number 111 => refused target
  | .notFound => notFound target
  | .number 2 => notFound target
  | e => system target e

end ConnectError

end Sidecar
