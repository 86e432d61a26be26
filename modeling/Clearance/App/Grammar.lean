import Clearance.Currency

/-! The grammar of command lines. Options are words that begin with two dashes; their values follow
behind an equals sign or as the next word. All words behind `--` are positional. A value is judged
when the next option or positional word is met, or at the end, so that a call for help is heeded
only if nothing before it is wrong. -/
namespace Clearance.App

/-- Why reading a command line stops. -/
inductive Stop where
  | usage
  | help
  deriving DecidableEq, Repr

inductive ValueKind where
  | text
  | path
  | amount
  | currency
  deriving DecidableEq, Repr

/-- A decimal integer of 64 bits, perhaps with a sign. -/
def readAmount (s : String) : Option Int64 :=
  let (negative, digits) := match s.toList with
    | '-' :: rest => (true, rest)
    | '+' :: rest => (false, rest)
    | cs => (false, cs)
  if digits.isEmpty || ! digits.all Char.isDigit then none
  else
    let magnitude : Nat := digits.foldl (fun n c => n * 10 + (c.toNat - '0'.toNat)) 0
    let value : Int := if negative then -(magnitude : Int) else magnitude
    if -0x8000000000000000 ≤ value ∧ value < 0x8000000000000000 then some (Int64.ofInt value)
    else none

def ValueKind.accepts : ValueKind → String → Bool
  | .text, _ => true
  | .path, s => ! s.isEmpty
  | .amount, s => (readAmount s).isSome
  | .currency, s => (Currency.ofText s).toOption.isSome

structure OptionRule where
  name : String
  kind : ValueKind := .text
  repeatable : Bool := false
  takesDashes : Bool := false
  deriving DecidableEq, Repr

/-- Whether the next word can be the value. -/
def OptionRule.takes (rule : OptionRule) (word : String) : Bool :=
  rule.takesDashes || word == "-" || ! word.startsWith "-"

/-- What may stand at one level of a command line. -/
structure Grammar where
  options : List OptionRule
  positionals : List ValueKind := []
  commands : List String := []

/-! ## Words -/

inductive Word where
  | escape
  | long (name : String) (attached : Option String)
  | short (first : Char)
  | plain
  deriving DecidableEq, Repr

def Word.ofText (s : String) : Word :=
  match s.toList with
  | ['-', '-'] => .escape
  | '-' :: '-' :: cs =>
    let name := String.ofList (cs.takeWhile (· != '='))
    match cs.dropWhile (· != '=') with
    | [] => .long name none
    | _ :: value => .long name (some (String.ofList value))
  | '-' :: c :: _ => .short c
  | _ => .plain

/-! ## Values -/

/-- The values of one level. -/
structure Values where
  options : List (String × String) := []
  positionals : List String := []
  deriving DecidableEq, Repr

namespace Values

def all (v : Values) (name : String) : List String :=
  (v.options.filter (·.1 == name)).map (·.2)

def get? (v : Values) (name : String) : Option String := v.options.lookup name

def addOption (v : Values) (rule : OptionRule) (s : String) : Except Stop Values :=
  if rule.kind.accepts s && (rule.repeatable || (v.get? rule.name).isNone) then
    .ok { v with options := v.options ++ [(rule.name, s)] }
  else .error .usage

def addPositional (g : Grammar) (v : Values) (s : String) : Except Stop Values :=
  match g.positionals[v.positionals.length]? with
  | some kind =>
    if kind.accepts s then .ok { v with positionals := v.positionals ++ [s] } else .error .usage
  | none => .error .usage

end Values

/-! ## Reading -/

/-- The value met last is not yet judged. -/
inductive Pending where
  | nothing
  | option (rule : OptionRule) (value : String)
  | positional (value : String)

structure Scan where
  values : Values := {}
  pending : Pending := .nothing

namespace Scan

def settle (g : Grammar) (s : Scan) : Except Stop Values :=
  match s.pending with
  | .nothing => .ok s.values
  | .option rule value => s.values.addOption rule value
  | .positional value => s.values.addPositional g value

def positional (g : Grammar) (s : Scan) (word : String) : Except Stop Scan := do
  let values ← s.settle g
  if values.positionals.length < g.positionals.length then return ⟨values, .positional word⟩
  else throw .usage

def positionals (g : Grammar) : Scan → List String → Except Stop Scan
  | s, [] => return s
  | s, word :: words => do positionals g (← s.positional g word) words

/-- Help is given if all before it is right. -/
def help (g : Grammar) (s : Scan) : Stop :=
  match s.settle g with
  | .ok _ => .help
  | .error e => e

/-- Reads words up to a command or to their end. -/
def words (g : Grammar) (s : Scan) :
    List String → Except Stop (Scan × Option (String × List String))
  | [] => return (s, none)
  | word :: rest =>
    if g.commands.contains word then return (s, some (word, rest))
    else
      match Word.ofText word with
      | .plain => do words g (← s.positional g word) rest
      | .escape => do return (← s.positionals g rest, none)
      | .short c => if c = 'h' then throw (s.help g) else throw .usage
      | .long name attached =>
        match g.options.find? (·.name == name), attached with
        | some rule, some value => do
          words g { values := ← (← s.settle g).addOption rule value } rest
        | some rule, none =>
          match rest with
          | value :: rest =>
            if rule.takes value then do words g ⟨← s.settle g, .option rule value⟩ rest
            else throw .usage
          | [] => throw .usage
        | none, none => if name = "help" then throw (s.help g) else throw .usage
        | none, some _ => throw .usage

end Scan

end Clearance.App
