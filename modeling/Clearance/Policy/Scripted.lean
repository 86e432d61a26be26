import Clearance.Policy.Request
import Clearance.Rego.Interpreter

/-! Policies that are a module of the policy language, asked by a query. Only the boolean `true` in
the first place of the first result allows. -/
namespace Clearance.Policy

/-- Answers a query about a module and an input document, or says why it cannot. -/
abbrev Interpreter := Rego.Module → Rego.Value → String → Except String Rego.QueryResults

def Interpreter.standard : Interpreter := fun m input query =>
  (Rego.query m input query).mapError Rego.Fault.message

structure Scripted where
  /-- The name that the module was given when it was read. -/
  source : String
  module : Rego.Module
  query : String

namespace Scripted

def defaultQuery : String := "data.warden.authz.allow"

def ofText (source text query : String) : Except Failure Scripted :=
  match Rego.Module.ofText? text with
  | some module => .ok ⟨source, module, query⟩
  | none => .error (.unprepared source)

def load (files : Files) (path query : String) : Except Failure Scripted := do
  let text ← (files.readText path).mapError (.unreadable path)
  ofText path text query

/-! ## Decisions -/

/-- The input document of a request, as JSON text. -/
def inputText (r : Request) : String := r.json.compact

/-- The input document as it is read back from its text. -/
def input (r : Request) : Except String Rego.Value :=
  ((Json.Value.ofText (inputText r)).map Rego.Value.ofJson).mapError Json.Error.message

/-- What the results of a query say. -/
inductive Verdict where
  | decided (allowed : Bool)
  | undecided
  | notBoolean
  deriving DecidableEq, Repr

/-- The first expression of the first result counts. -/
def Verdict.ofResults : Rego.QueryResults → Verdict
  | (some (.boolean b) :: _) :: _ => .decided b
  | (some _ :: _) :: _ => .notBoolean
  | _ => .undecided

def Verdict.decision (rule : String) : Verdict → Decision
  | .decided true => .allow "allowed by Rego policy" rule
  | .decided false => .deny "denied by Rego policy" rule
  | .undecided => .deny "Rego policy produced no decision" rule
  | .notBoolean => .deny "Rego policy produced a non-boolean decision" rule

def Verdict.events (v : Verdict) : List LogEvent :=
  let decided : LogEvent := ⟨.debug, "Rego policy decision"⟩
  match v with
  | .notBoolean => [⟨.warn, "Rego policy produced a non-boolean decision"⟩, decided]
  | _ => [decided]

def checkWith (interpret : Interpreter) (p : Scripted) (r : Request) : Ruling :=
  match input r >>= fun document => interpret p.module document p.query with
  | .ok results =>
    let verdict := Verdict.ofResults results
    ⟨.ok (verdict.decision ("rego:" ++ p.query)), verdict.events⟩
  | .error reason => ⟨.error (.undecided (p.query ++ ": " ++ reason)), []⟩

def check (p : Scripted) (r : Request) : Ruling := p.checkWith .standard r

def decideWith (interpret : Interpreter) (p : Scripted) (r : Request) : Except Failure Decision :=
  (p.checkWith interpret r).decision

def decide (p : Scripted) (r : Request) : Except Failure Decision := p.decideWith .standard r

end Scripted

end Clearance.Policy
