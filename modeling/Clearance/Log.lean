/-! Events that are reported while something is decided. An event is kept as its level and its
message; the values that it carries besides, such as paths, names and reasons, are not. -/
namespace Clearance

inductive Level where
  | debug
  | info
  | warn
  | error
  deriving DecidableEq, Repr

namespace Level

def name : Level → String
  | .debug => "DEBUG"
  | .info => "INFO"
  | .warn => "WARN"
  | .error => "ERROR"

def rank : Level → Nat
  | .debug => 0
  | .info => 1
  | .warn => 2
  | .error => 3

end Level

structure LogEvent where
  level : Level
  message : String
  deriving DecidableEq, Repr

def LogEvent.text (e : LogEvent) : String := e.level.name ++ " " ++ e.message

/-! ## Between the lines -/

/-- What is said in the course of a run: a line is printed, or an event is reported. -/
inductive Said where
  | line (text : String)
  | event (e : LogEvent)
  deriving DecidableEq, Repr

namespace Said

def line? : Said → Option String
  | .line text => some text
  | .event _ => none

def lines (said : List Said) : List String := said.filterMap line?

/-- Events, and lines behind them. -/
def report (events : List LogEvent) (lines : List String) : List Said :=
  events.map .event ++ lines.map .line

@[simp] theorem lines_append (earlier later : List Said) :
    lines (earlier ++ later) = lines earlier ++ lines later :=
  List.filterMap_append

@[simp] theorem lines_line (text : String) : lines [.line text] = [text] := rfl

@[simp] theorem lines_report (events : List LogEvent) (texts : List String) :
    lines (report events texts) = texts := by
  have silent : (events.map event).filterMap line? = [] := by simp [line?]
  have printed : (texts.map line).filterMap line? = texts := by simp [line?, Function.comp_def]
  rw [report, lines, List.filterMap_append, silent, printed, List.nil_append]

end Said

/-- How events show in the output. The text for an event may hang on the event's place among all
that are reported, as a time does. -/
abbrev Log := Nat → LogEvent → String

namespace Log

def off : Log := fun _ _ => ""

/-- Events from a level on, each on a line of its own. -/
def showing (least : Level) : Log := fun _ e =>
  if least.rank ≤ e.level.rank then e.text ++ "\n" else ""

/-- Lines as they are, and events as the log shows them. -/
def output : Log → List Said → String
  | _, [] => ""
  | log, .line text :: later => text ++ "\n" ++ log.output later
  | log, .event e :: later => log 0 e ++ output (fun n => log (n + 1)) later

/-- No event shows. -/
def Silent (log : Log) : Prop := ∀ n e, log n e = ""

/-- Under a silent log the output is that of the lines. -/
theorem Silent.output {log : Log} (silent : log.Silent) (said : List Said) :
    log.output said = String.join ((Said.lines said).map (· ++ "\n")) := by
  induction said generalizing log with
  | nil => rfl
  | cons first later ih =>
    cases first with
    | line text =>
      rw [Log.output, ih silent]
      exact (String.join_cons ..).symm
    | event e =>
      rw [Log.output, silent, ih fun n e => silent (n + 1) e, String.empty_append]
      rfl

end Log

end Clearance
