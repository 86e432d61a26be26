import Clearance.App.Failure
import Clearance.Policy.Selection

/-! A session has a policy in force and an engine that screens. Commands are run on it one after the
other; what the engine remembers goes on to the next. -/
namespace Clearance.App

structure Session where
  policy : Policy.Engine
  screening : Fraud.Engine Fraud.StandardRule

/-! ## Opening -/

/-- Paths that take the place of what the environment names. -/
structure Options where
  policyRego : Option String := none
  policyJson : Option String := none
  fraudConfig : Option String := none
  deriving DecidableEq, Repr

namespace Options

def sources (o : Options) (e : Environment) : Policy.Sources :=
  let s := Policy.Sources.ofEnvironment e
  { s with regoPath := o.policyRego <|> s.regoPath, jsonPath := o.policyJson <|> s.jsonPath }

def limitsPath (o : Options) (e : Environment) : Option String :=
  o.fraudConfig <|> e.setting Environment.fraudConfig

def limits (o : Options) (e : Environment) (files : Files) : Except Failure Fraud.Limits :=
  match o.limitsPath e with
  | some path => (Fraud.Limits.load files path).mapError (.limits path)
  | none => .ok {}

end Options

namespace Session

def start (sources : Policy.Sources) (limits : Fraud.Limits) (files : Files) :
    Except Failure Session := do
  let screening ← (Fraud.Engine.ofLimits limits).mapError .window
  return ⟨(Policy.Selection.ofSources sources files).engine, screening⟩

def ofOptions (o : Options) (e : Environment) (files : Files) : Except Failure Session := do
  start (o.sources e) (← o.limits e files) files

/-- What is reported while a session is opened. -/
def openingEvents (sources : Policy.Sources) (files : Files) : List LogEvent :=
  (Policy.Selection.ofSources sources files).events ++ [⟨.debug, "Application context ready"⟩]

end Session

/-! ## Commands -/

inductive Command where
  | authorize (r : Policy.Request)
  | validate (role : Role) (action : Action) (resource : Resource)
  | screen (t : Fraud.Transaction)
  | screenBatch (path : String)
  | backend

inductive Answer where
  | decision (d : Policy.Decision)
  | permitted
  | screening (s : Fraud.Screening)
  | screenings (ss : List Fraud.Screening)
  | backend (b : Policy.Backend)
  deriving DecidableEq, Repr

/-- What a command says, what it answers, and the session behind it. -/
structure Step where
  said : List Said
  answer : Except Failure Answer
  session : Session

def Step.lines (s : Step) : List String := Said.lines s.said

/-- Lines as they are printed. -/
def printed (lines : List String) : String := String.join (lines.map (· ++ "\n"))

/-- What a command prints. -/
def Step.output (s : Step) : String := printed s.lines

def decisionLines (backend : Policy.Backend) (d : Policy.Decision) : List String :=
  let verdict := if d.allowed then "✅ Allowed (" else "❌ Denied ("
  (verdict ++ backend.name ++ " backend): " ++ d.reason) ::
    if d.rules.isEmpty then [] else ["   Rules: " ++ ", ".intercalate d.rules]

def permittedLine (role : Role) (action : Action) (resource : Resource) : String :=
  "✅ Role " ++ role.name ++ " may " ++ action.name ++ " " ++ resource.name

def findingLine (f : Fraud.Finding) : String :=
  "   " ++ f.rule ++ ": " ++ f.message.getD "failed"

def screeningLines (t : Fraud.Transaction) (s : Fraud.Screening) : List String :=
  let (mark, verdict) := if s.isRisky then ("⚠️  ", " flagged (") else ("✅ ", " clear (")
  (mark ++ t.id ++ verdict ++ toString t.amount.toInt ++ " " ++ t.currency.code ++ " from " ++
    t.principal ++ ")") :: s.failed.map findingLine

def summaryLine (ss : List Fraud.Screening) : String :=
  "📊 Screened " ++ toString ss.length ++ " transactions, " ++
    toString (ss.filter (·.isRisky)).length ++ " risky"

/-- The transactions of a file. -/
def readBatch (files : Files) (path : String) : Except Failure (List Fraud.Transaction) := do
  let text ← (files.readText path).mapError (.unreadableBatch path)
  (Json.decode Fraud.batchReader text).mapError (.malformedBatch path)

/-- Screened transactions: what is said, the screenings, and the engine behind them. -/
structure Screened where
  said : List Said
  screenings : List Fraud.Screening
  engine : Fraud.Engine Fraud.StandardRule

/-- Screens transactions in their order, each at its own reading of the clock. -/
def screenAll (engine : Fraud.Engine Fraud.StandardRule) (clock : Nat → Fraud.Instant) :
    List Fraud.Transaction → Screened
  | [] => ⟨[], [], engine⟩
  | t :: ts =>
    let step := engine.check (clock 0) t
    let rest := screenAll step.engine (fun n => clock (n + 1)) ts
    ⟨Said.report step.events (screeningLines t step.screening) ++ rest.said,
      step.screening :: rest.screenings, rest.engine⟩

namespace Session

def authorize (s : Session) (r : Policy.Request) : Step :=
  let backend := s.policy.backend
  let ruling := s.policy.check r
  match ruling.decision with
  | .ok d => ⟨Said.report ruling.events (decisionLines backend d), .ok (.decision d), s⟩
  | .error f => ⟨Said.report ruling.events [], .error (.undecided backend r.action f), s⟩

def validate (s : Session) (role : Role) (action : Action) (resource : Resource) : Step :=
  match Policy.Matrix.validate role action resource with
  | .ok () => ⟨[.line (permittedLine role action resource)], .ok .permitted, s⟩
  | .error f => ⟨[], .error (.refused f), s⟩

def screen (s : Session) (now : Fraud.Instant) (t : Fraud.Transaction) : Step :=
  let step := s.screening.check now t
  ⟨Said.report step.events (screeningLines t step.screening), .ok (.screening step.screening),
    { s with screening := step.engine }⟩

/-- A file that cannot be read as a whole changes nothing. -/
def screenBatch (s : Session) (files : Files) (clock : Nat → Fraud.Instant) (path : String) :
    Step :=
  match readBatch files path with
  | .error f => ⟨[], .error f, s⟩
  | .ok ts =>
    let screened := screenAll s.screening clock ts
    ⟨screened.said ++ [.line (summaryLine screened.screenings)],
      .ok (.screenings screened.screenings), { s with screening := screened.engine }⟩

def run (s : Session) (files : Files) (clock : Nat → Fraud.Instant) : Command → Step
  | .authorize r => s.authorize r
  | .validate role action resource => s.validate role action resource
  | .screen t => s.screen (clock 0) t
  | .screenBatch path => s.screenBatch files clock path
  | .backend =>
    ⟨[.line ("Policy backend: " ++ s.policy.backend.name)], .ok (.backend s.policy.backend), s⟩

end Session

end Clearance.App
