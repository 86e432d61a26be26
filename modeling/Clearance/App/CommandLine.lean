import Clearance.App.Grammar
import Clearance.App.Session

/-! The commands as they are written. The options that name files may stand before or behind the
command; the one behind it wins. -/
namespace Clearance.App

/-- A command before it has all it needs: a transaction may still lack its name. -/
inductive Task where
  | authorize (r : Policy.Request)
  | validate (role : Role) (action : Action) (resource : Resource)
  | screen (id : Option String) (amount : Int64) (currency : Currency) (principal : String)
  | screenBatch (path : String)
  | backend
  deriving DecidableEq, Repr

def Task.command (freshId : String) : Task → Command
  | .authorize r => .authorize r
  | .validate role action resource => .validate role action resource
  | .screen id amount currency principal =>
    .screen ⟨id.getD freshId, amount, currency, principal⟩
  | .screenBatch path => .screenBatch path
  | .backend => .backend

structure Invocation where
  options : Options
  task : Task
  deriving DecidableEq, Repr

namespace CommandLine

def fileOptions : List OptionRule :=
  [{ name := "policy-rego", kind := .path }, { name := "policy-json", kind := .path },
    { name := "fraud-config", kind := .path }]

/-- The commands, with what may stand behind them. -/
def commands : List (String × Grammar) :=
  [("authorize",
      { options := { name := "role", repeatable := true } :: { name := "resource" } :: fileOptions
        positionals := [.text] }),
    ("validate", { options := fileOptions, positionals := [.text, .text, .text] }),
    ("screen",
      { options := { name := "principal" } :: { name := "amount", kind := .amount, takesDashes := true } ::
          { name := "currency", kind := .currency } :: { name := "id" } :: fileOptions }),
    ("screen-batch", { options := fileOptions, positionals := [.path] }),
    ("backend", { options := fileOptions })]

def helpCommand : String := "help"

def top : Grammar where
  options := fileOptions
  commands := commands.map (·.1) ++ [helpCommand]

/-- Help on everything, or on one command. -/
def helpOn : List String → Stop
  | [] => .help
  | [command] => if top.commands.contains command then .help else .usage
  | _ => .usage

def required (a : Option α) : Except Stop α :=
  match a with
  | some a => .ok a
  | none => .error .usage

def task (command : String) (v : Values) : Except Stop Task :=
  match command, v.positionals with
  | "authorize", [action] =>
    .ok (.authorize ⟨(v.all "role").map Role.mk, ⟨action⟩, (v.get? "resource").map Resource.mk⟩)
  | "validate", [role, action, resource] => .ok (.validate ⟨role⟩ ⟨action⟩ ⟨resource⟩)
  | "screen", [] => do
    let principal ← required (v.get? "principal")
    let amount ← required ((v.get? "amount").bind readAmount)
    let currency ← match v.get? "currency" with
      | some s => required (Currency.ofText s).toOption
      | none => .ok Currency.usd
    return .screen (v.get? "id") amount currency principal
  | "screen-batch", [path] => .ok (.screenBatch path)
  | "backend", [] => .ok .backend
  | _, _ => .error .usage

def options (inner outer : Values) : Options :=
  let path (name : String) := inner.get? name <|> outer.get? name
  ⟨path "policy-rego", path "policy-json", path "fraud-config"⟩

def parse (words : List String) : Except Stop Invocation := do
  let (scan, next) ← Scan.words top {} words
  match next with
  | none => throw .usage
  | some (command, rest) =>
    if command = helpCommand then throw (helpOn rest)
    let g ← required (commands.lookup command)
    let (inner, _) ← Scan.words g {} rest
    let inner ← inner.settle g
    let task ← task command inner
    let outer ← scan.settle top
    return ⟨options inner outer, task⟩

end CommandLine

end Clearance.App
