/-!
# What can go wrong on a link

A link to a neighbour fails for the causes below. Some of them may pass, so that trying the same
again makes sense; a closed link, a bad address, bad settings or a frame that is too large stay as
they are.
-/

namespace RadioGossip

/-- Why a link or an operation on it failed. -/
inductive LinkError where
  | connectionFailed (reason : String)
  | sendFailed (reason : String)
  | timeout
  | invalidAddress (reason : String)
  | closed
  | frameTooLarge (size max : Nat)
  | invalidSettings (reason : String)
  | streamFailed (reason : String)
  deriving DecidableEq, Repr

namespace LinkError

/-- The failure in words. -/
def message : LinkError → String
  | connectionFailed reason => s!"Connection failed: {reason}"
  | sendFailed reason => s!"Send failed: {reason}"
  | timeout => "Connection timeout"
  | invalidAddress reason => s!"Invalid address: {reason}"
  | closed => "Connection closed"
  | frameTooLarge size max => s!"Frame too large: {size} bytes (max: {max})"
  | invalidSettings reason => s!"Invalid configuration: {reason}"
  | streamFailed reason => s!"IO error: {reason}"

/-- Whether trying again may help. -/
def isRetryable : LinkError → Bool
  | timeout | connectionFailed _ | sendFailed _ | streamFailed _ => true
  | _ => false

end LinkError

end RadioGossip
