import Clearance.App.CommandLine

/-! A whole run from the words of a command line to what is printed and the exit status. A refusal
is an answer like any other; only a command that gives no answer fails. -/
namespace Clearance.App

structure Exit where
  status : UInt32
  said : List Said
  errors : String
  deriving DecidableEq, Repr

namespace Exit

def lines (exit : Exit) : List String := Said.lines exit.said

/-- The output, with the events as a log shows them. -/
def output (exit : Exit) (log : Log) : String := log.output exit.said

def usageText : String :=
  "usage: [--policy-rego PATH] [--policy-json PATH] [--fraud-config PATH] COMMAND\n" ++
  "  authorize [--role ROLE]... [--resource RESOURCE] ACTION\n" ++
  "  validate ROLE ACTION RESOURCE\n" ++
  "  screen --principal NAME --amount AMOUNT [--currency CODE] [--id ID]\n" ++
  "  screen-batch PATH\n" ++
  "  backend\n"

def ofStop : Stop → Exit
  | .help => ⟨0, [], usageText⟩
  | .usage => ⟨2, [], usageText⟩

/-- The exit behind what was said before. -/
def ofAnswer (said : List Said) : Except Failure Answer → Exit
  | .ok _ => ⟨0, said, ""⟩
  | .error f => ⟨1, said, f.report⟩

end Exit

/-- What a run may use besides its words. -/
structure Surroundings where
  environment : Environment
  files : Files
  /-- A name for a transaction that was given none. -/
  freshId : String
  clock : Nat → Fraud.Instant

/-- All paths at which a run may look. -/
def Invocation.paths (i : Invocation) (e : Environment) : List String :=
  let s := i.options.sources e
  s.regoPath.toList ++ s.jsonPath.toList ++ s.regoLocations ++ s.jsonLocations ++
    (i.options.limitsPath e).toList ++
    match i.task with
    | .screenBatch path => [path]
    | _ => []

def Invocation.run (i : Invocation) (around : Surroundings) : Exit :=
  match Session.ofOptions i.options around.environment around.files with
  | .error f => .ofAnswer [] (.error f)
  | .ok session =>
    let opening := Session.openingEvents (i.options.sources around.environment) around.files
    let step := session.run around.files around.clock (i.task.command around.freshId)
    .ofAnswer (Said.report opening [] ++ step.said) step.answer

def run (words : List String) (around : Surroundings) : Exit :=
  match CommandLine.parse words with
  | .error stop => .ofStop stop
  | .ok i => i.run around

end Clearance.App
