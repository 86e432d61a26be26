import Clearance.App.Session
import Clearance.Proofs.Fraud.Independence

/-! Commands that are run one after the other on one session. What a command does to the session is
said once, in `run_session`, and what it shows in `run_seen`: both hang on the transactions that it
screens, and on nothing else that the session remembers. -/
namespace Clearance.App

open Fraud (Arrival)

/-- A command, with the files that it finds and its readings of the clock. -/
structure Call where
  command : Command
  files : Files
  clock : Nat → Fraud.Instant

/-- Transactions at successive readings of a clock. -/
def readings (clock : Nat → Fraud.Instant) (ts : List Fraud.Transaction) : List Arrival :=
  ts.mapIdx fun i t => ⟨t, clock i⟩

theorem readings_cons (clock : Nat → Fraud.Instant) (t : Fraud.Transaction)
    (ts : List Fraud.Transaction) :
    readings clock (t :: ts) = ⟨t, clock 0⟩ :: readings (fun i => clock (i + 1)) ts :=
  List.mapIdx_cons

/-- A command that screens, be it one transaction or a file of them. -/
def Command.screens : Command → Bool
  | .screen _ | .screenBatch _ => true
  | _ => false

namespace Call

def run (c : Call) (s : Session) : Step := s.run c.files c.clock c.command

/-- The transactions that are screened. A file that cannot be read as a whole has none. -/
def arrivals (c : Call) : List Arrival :=
  match c.command with
  | .screen t => readings c.clock [t]
  | .screenBatch path =>
    match readBatch c.files path with
    | .ok ts => readings c.clock ts
    | .error _ => []
  | _ => []

/-- The screening of a single transaction. -/
def ofArrival (a : Arrival) : Call := ⟨.screen a.transaction, .none, fun _ => a.now⟩

@[simp] theorem arrivals_ofArrival (a : Arrival) : (ofArrival a).arrivals = [a] := rfl

theorem arrivals_silent (c : Call) (silent : c.command.screens = false) : c.arrivals = [] := by
  unfold arrivals
  cases command : c.command <;> simp_all [Command.screens]

end Call

/-- What is seen of a step: what it prints, and what it answers. -/
def Step.seen (s : Step) : List String × Except Failure Answer := (s.lines, s.answer)

/-- The screenings that an answer holds. -/
def Answer.screened : Answer → List Fraud.Screening
  | .screening s => [s]
  | .screenings ss => ss
  | _ => []

def Step.screened (s : Step) : List Fraud.Screening :=
  match s.answer with
  | .ok a => a.screened
  | .error _ => []

/-- What a step prints and answers, and the session behind it, whatever it reports on the way. -/
structure Step.Shows (step : Step) (lines : List String) (answer : Except Failure Answer)
    (session : Session) : Prop where
  lines : step.lines = lines
  answer : step.answer = answer
  session : step.session = session

theorem Step.Shows.seen {step : Step} {lines : List String} {answer : Except Failure Answer}
    {session : Session} (shows : step.Shows lines answer session) : step.seen = (lines, answer) :=
  Prod.ext shows.lines shows.answer

/-! ## Steps -/

/-- Screening transactions one after the other is what the engine does with them as a sequence. -/
theorem screenAll_eq (engine : Fraud.Engine Fraud.StandardRule) (clock : Nat → Fraud.Instant)
    (ts : List Fraud.Transaction) :
    let screened := screenAll engine clock ts
    Said.lines screened.said =
        (List.zipWith screeningLines ts (engine.screenings (readings clock ts))).flatten ∧
      screened.screenings = engine.screenings (readings clock ts) ∧
      screened.engine = engine.after (readings clock ts) := by
  induction ts generalizing engine clock with
  | nil => exact ⟨rfl, rfl, rfl⟩
  | cons t ts ih =>
    obtain ⟨lines, screenings, after⟩ := ih (engine.check (clock 0) t).engine fun n => clock (n + 1)
    rw [readings_cons]
    refine ⟨?_, congrArg _ screenings, after⟩
    rw [screenAll, Said.lines_append, Said.lines_report, lines]
    rfl

namespace Call

variable (c : Call) (s : Session)

/-- What a call can be: it does not screen, or it screens a transaction, or a file that cannot be
read, or one that can. -/
theorem kinds : (c.command.screens = false) ∨ (∃ t, c.command = .screen t) ∨
    (∃ path f, c.command = .screenBatch path ∧ readBatch c.files path = .error f) ∨
    ∃ path ts, c.command = .screenBatch path ∧ readBatch c.files path = .ok ts := by
  cases command : c.command with
  | screen t => exact .inr (.inl ⟨t, rfl⟩)
  | screenBatch path =>
    cases read : readBatch c.files path with
    | error f => exact .inr (.inr (.inl ⟨path, f, rfl, read⟩))
    | ok ts => exact .inr (.inr (.inr ⟨path, ts, rfl, read⟩))
  | _ => exact .inl rfl

/-- A call that does not screen depends on the policy alone and changes nothing. -/
theorem run_silent (silent : c.command.screens = false) (t : Session) (policy : s.policy = t.policy) :
    (c.run s).session = s ∧ (c.run s).seen = (c.run t).seen ∧ (c.run s).screened = [] := by
  unfold run
  cases command : c.command with
  | authorize r =>
    simp only [Session.run, Session.authorize, policy]
    cases (t.policy.check r).decision <;> exact ⟨rfl, rfl, rfl⟩
  | validate role action resource =>
    simp only [Session.run, Session.validate]
    cases Policy.Matrix.validate role action resource <;> exact ⟨rfl, rfl, rfl⟩
  | backend =>
    simp only [Session.run, policy, true_and]
    exact ⟨rfl, rfl⟩
  | screen t => simp [command, Command.screens] at silent
  | screenBatch path => simp [command, Command.screens] at silent

theorem run_screen {t : Fraud.Transaction} (screen : c.command = .screen t) :
    let screening := (s.screening.check (c.clock 0) t).screening
    c.arrivals = [⟨t, c.clock 0⟩] ∧
      (c.run s).Shows (screeningLines t screening) (.ok (.screening screening))
        { s with screening := s.screening.after [⟨t, c.clock 0⟩] } := by
  rw [arrivals, run, screen]
  exact ⟨rfl, Said.lines_report _ _, rfl, rfl⟩

theorem run_unread {path : String} {f : Failure} (batch : c.command = .screenBatch path)
    (unread : readBatch c.files path = .error f) :
    c.arrivals = [] ∧ (c.run s).Shows [] (.error f) s := by
  simp only [arrivals, run, batch, Session.run, Session.screenBatch, unread, true_and]
  exact ⟨rfl, rfl, rfl⟩

theorem run_batch {path : String} {ts : List Fraud.Transaction}
    (batch : c.command = .screenBatch path) (read : readBatch c.files path = .ok ts) :
    let screenings := s.screening.screenings (readings c.clock ts)
    c.arrivals = readings c.clock ts ∧
      (c.run s).Shows ((List.zipWith screeningLines ts screenings).flatten ++ [summaryLine screenings])
        (.ok (.screenings screenings))
        { s with screening := s.screening.after (readings c.clock ts) } := by
  obtain ⟨lines, screenings, after⟩ := screenAll_eq s.screening c.clock ts
  simp only [arrivals, run, batch, Session.run, Session.screenBatch, read, screenings, after,
    true_and]
  refine ⟨?_, rfl, rfl⟩
  rw [Step.lines, Said.lines_append, lines, Said.lines_line]

/-- The screened transactions are remembered, and nothing else is. -/
theorem run_session :
    (c.run s).session = { s with screening := s.screening.after c.arrivals } := by
  rcases c.kinds with silent | ⟨t, screen⟩ | ⟨path, f, batch, unread⟩ | ⟨path, ts, batch, read⟩
  · rw [c.arrivals_silent silent, (c.run_silent s silent s rfl).1]
    rfl
  · obtain ⟨arrivals, shows⟩ := c.run_screen s screen
    rw [arrivals, shows.session]
  · obtain ⟨arrivals, shows⟩ := c.run_unread s batch unread
    rw [arrivals, shows.session]
    rfl
  · obtain ⟨arrivals, shows⟩ := c.run_batch s batch read
    rw [arrivals, shows.session]

/-- A step that fails leaves the session as it was. -/
theorem run_failed {f : Failure} (failed : (c.run s).answer = .error f) : (c.run s).session = s := by
  rcases c.kinds with silent | ⟨t, screen⟩ | ⟨path, g, batch, unread⟩ | ⟨path, ts, batch, read⟩
  · exact (c.run_silent s silent s rfl).1
  · cases failed.symm.trans (c.run_screen s screen).2.answer
  · exact (c.run_unread s batch unread).2.session
  · cases failed.symm.trans (c.run_batch s batch read).2.answer

/-- A step shows what the policy says and how its own transactions are screened. -/
theorem run_seen {t : Session} (policy : s.policy = t.policy)
    (screenings : s.screening.screenings c.arrivals = t.screening.screenings c.arrivals) :
    (c.run s).seen = (c.run t).seen := by
  rcases c.kinds with silent | ⟨u, screen⟩ | ⟨path, f, batch, unread⟩ | ⟨path, ts, batch, read⟩
  · exact (c.run_silent s silent t policy).2.1
  · rw [(c.run_screen s screen).1] at screenings
    have same : (s.screening.check (c.clock 0) u).screening =
        (t.screening.check (c.clock 0) u).screening := (List.cons.inj screenings).1
    rw [(c.run_screen s screen).2.seen, (c.run_screen t screen).2.seen, same]
  · rw [(c.run_unread s batch unread).2.seen, (c.run_unread t batch unread).2.seen]
  · rw [(c.run_batch s batch read).1] at screenings
    rw [(c.run_batch s batch read).2.seen, (c.run_batch t batch read).2.seen, screenings]

/-- A step answers with the screenings of its own transactions. -/
theorem run_screened : (c.run s).screened = s.screening.screenings c.arrivals := by
  rcases c.kinds with silent | ⟨t, screen⟩ | ⟨path, f, batch, unread⟩ | ⟨path, ts, batch, read⟩
  · rw [(c.run_silent s silent s rfl).2.2, c.arrivals_silent silent]
    rfl
  · obtain ⟨arrivals, shows⟩ := c.run_screen s screen
    rw [arrivals, Step.screened, shows.answer]
    rfl
  · obtain ⟨arrivals, shows⟩ := c.run_unread s batch unread
    rw [arrivals, Step.screened, shows.answer]
    rfl
  · obtain ⟨arrivals, shows⟩ := c.run_batch s batch read
    rw [arrivals, Step.screened, shows.answer]
    rfl

end Call

/-! ## Sequences -/

namespace Session

def after (s : Session) : List Call → Session
  | [] => s
  | c :: later => after (c.run s).session later

/-- What is seen of each step of a sequence. -/
def observe (s : Session) : List Call → List (List String × Except Failure Answer)
  | [] => []
  | c :: later => (c.run s).seen :: observe (c.run s).session later

/-- A session remembers the transactions that were screened, in their order, and nothing else. -/
theorem after_session (s : Session) (calls : List Call) :
    s.after calls = { s with screening := s.screening.after (calls.flatMap Call.arrivals) } := by
  induction calls generalizing s with
  | nil => rfl
  | cons c later ih =>
    rw [after, ih, c.run_session, List.flatMap_cons, Fraud.Engine.after_append]

theorem after_append (s : Session) (earlier later : List Call) :
    s.after (earlier ++ later) = (s.after earlier).after later := by
  induction earlier generalizing s with
  | nil => rfl
  | cons c earlier ih => exact ih _

end Session

end Clearance.App
