import Clearance.Files
import Clearance.Json.Fault

/-! Why a policy could not be loaded, could not decide, or refused. -/
namespace Clearance.Policy

inductive Failure where
  | unreadable (path : String) (reason : ReadFailure)
  | malformed (error : Json.Error)
  | unprepared (path : String)
  | undecided (detail : String)
  | unauthorized (role action resource : String)
  deriving DecidableEq, Repr

namespace Failure

def message : Failure → String
  | .unreadable path reason => "Failed to read policy source " ++ path ++ ": " ++ reason.message
  | .malformed error => "Invalid JSON policy document: " ++ error.message
  | .unprepared path => "Failed to prepare policy module " ++ path
  | .undecided detail => "decision unavailable: " ++ detail
  | .unauthorized role action resource =>
    "role " ++ role ++ " is not authorized to " ++ action ++ " resource " ++ resource

/-- No decision was made: neither an allow nor a deny. -/
def isUnavailable : Failure → Bool
  | .undecided _ => true
  | _ => false

def isDenial : Failure → Bool
  | .unauthorized .. => true
  | _ => false

end Failure

end Clearance.Policy
