import Clearance.Fraud.Engine
import Clearance.Policy.Engine

/-! Why a command gives no answer, from what was being done down to the root. -/
namespace Clearance.App

inductive Failure where
  | limits (path : String) (cause : Fraud.Failure)
  /-- Thresholds that were validated never lead here. -/
  | window (cause : Fraud.SpanError)
  | undecided (backend : Policy.Backend) (action : Action) (cause : Policy.Failure)
  | refused (cause : Policy.Failure)
  | unreadableBatch (path : String) (reason : ReadFailure)
  | malformedBatch (path : String) (error : Json.Error)
  deriving DecidableEq, Repr

namespace Failure

/-- The message, and the messages of its causes. -/
def chain : Failure → String × List String
  | limits path cause => ("loading fraud config " ++ path, cause.chain)
  | window cause => (cause.message, [])
  | undecided backend action cause =>
    (backend.name ++ " backend could not decide " ++ action.name, [cause.message])
  | refused cause => (cause.message, [])
  | unreadableBatch path reason => ("reading " ++ path, [reason.message])
  | malformedBatch path error => ("parsing transactions from " ++ path, [error.message])

/-! ## The report -/

/-- A message whose further lines stand below its first. -/
def indented (margin : String) (message : String) : String :=
  ("\n" ++ margin).intercalate (message.splitOn "\n")

def numbered (n : Nat) (message : String) : String :=
  "    " ++ toString n ++ ": " ++ indented "       " message

/-- Several causes are numbered, a single one is not. -/
def causesText : List String → String
  | [] => ""
  | [cause] => "\n\nCaused by:\n    " ++ indented "    " cause
  | causes => "\n\nCaused by:\n" ++
    "\n".intercalate (causes.zipIdx.map fun (cause, n) => numbered n cause)

def report (f : Failure) : String :=
  let (top, causes) := f.chain
  "Error: " ++ top ++ causesText causes ++ "\n"

end Failure

end Clearance.App
