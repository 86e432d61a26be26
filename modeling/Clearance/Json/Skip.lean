import Clearance.Json.Literal
import Clearance.Json.Number
import Clearance.Json.Scalar

/-! Passing over a value of any type and depth. The open brackets are kept in a list, so that the
depth of a text is not bounded. -/
namespace Clearance.Json

inductive Bracket where
  | list
  | object
  deriving DecidableEq, Repr

def Bracket.endCause : Bracket → Cause
  | .list => .endInList
  | .object => .endInObject

def Bracket.commaCause : Bracket → Cause
  | .list => .expectedListCommaOrEnd
  | .object => .expectedObjectCommaOrEnd

def Bracket.closing : Bracket → Char
  | .list => ']'
  | .object => '\x7d'

/-- What is due next inside the open brackets: a value, or a value unless the innermost bracket
closes at once, or a comma unless it closes. -/
inductive Due where
  | value
  | firstOrEnd
  | commaOrEnd
  deriving DecidableEq, Repr

/-- A key and its colon, before the value of a member that is passed over. -/
def skipKey : Reader Unit := fun s =>
  match skipSpace s with
  | '"' :: rest =>
    (skipString rest).bind fun _ rest =>
      match skipSpace rest with
      | ':' :: rest => .read () rest
      | [] => brokenHere .endInObject []
      | rest => brokenAtNext .expectedColon rest
  | [] => brokenHere .endInObject []
  | rest => brokenAtNext .keyNotString rest

/-- The next value of a list, or the next member of an object up to its value. -/
def skipToValue (innermost : Bracket) : Reader Unit :=
  match innermost with
  | .list => fun s => .read () s
  | .object => skipKey

/-- A value without brackets. -/
def skipScalar : Reader Unit := fun s =>
  match s with
  | [] => brokenHere .endInValue []
  | 'n' :: rest => word ['u', 'l', 'l'] rest
  | 't' :: rest => word ['r', 'u', 'e'] rest
  | 'f' :: rest => word ['a', 'l', 's', 'e'] rest
  | '"' :: rest => skipString rest
  | c :: _ =>
    if startsNumber c then (numeral .invalidNumber s).map fun _ => ()
    else brokenAtNext .expectedValue s

/-- One step: what is due next, the brackets that are open then, and the unread rest. `none` stands
for the end of the value. -/
def skipStep (due : Due) (opened : List Bracket) : Reader (Option (Due × List Bracket)) := fun s =>
  match due, opened with
  | .value, _ =>
    match skipSpace s with
    | '[' :: rest => .read (some (.firstOrEnd, .list :: opened)) rest
    | '{' :: rest => .read (some (.firstOrEnd, .object :: opened)) rest
    | rest =>
      (skipScalar rest).map fun _ => if opened.isEmpty then none else some (.commaOrEnd, opened)
  | _, [] => .read none s
  | due, innermost :: outer =>
    match skipSpace s with
    | [] => brokenHere innermost.endCause []
    | c :: rest =>
      if c = innermost.closing then
        .read (if outer.isEmpty then none else some (.commaOrEnd, outer)) rest
      else if due = .firstOrEnd then
        (skipToValue innermost (c :: rest)).map fun _ => some (.value, opened)
      else if c = ',' then
        (skipToValue innermost rest).map fun _ => some (.value, opened)
      else brokenAtNext innermost.commaCause (c :: rest)

/-- Runs steps until the value ends. Two steps suffice for each character. -/
def skipSteps : Nat → Due → List Bracket → Reader Unit
  | 0, _, _, s => .read () s
  | n + 1, due, opened, s =>
    (skipStep due opened s).bind fun next rest =>
      match next with
      | none => .read () rest
      | some (due, opened) => skipSteps n due opened rest

def skip : Reader Unit := fun s => skipSteps (2 * s.length + 1) .value [] s

end Clearance.Json
