import Clearance.Rego.Syntax
import Clearance.Rego.Token

/-! Parsers read a list of tokens from its front. Some words are keywords only where a module
imports them. -/
namespace Clearance.Rego

/-- The words that are keywords because a module imports them. A strict module has all of them, and
writes `if` before every first body. -/
structure Keywords where
  words : List String := []
  strict : Bool := false
  deriving DecidableEq, Repr

namespace Keywords

/-- The words that a module can import. -/
def importable : List String := ["contains", "every", "if", "in"]

def has (k : Keywords) (word : String) : Bool := k.words.contains word

/-- Adds some words; `every` does not come without `in`. -/
def adding (k : Keywords) (words : List String) : Keywords :=
  let more := if words.contains "every" then "in" :: words else words
  { k with words := k.words ++ more }

end Keywords

structure ParserState where
  lastLine : Nat
  rest : List Token

abbrev Parser := StateT ParserState Option

namespace Parser

def peek : Parser (Option Token) := do return (← get).rest.head?

def advance : Parser Token := do
  match (← get).rest with
  | [] => failure
  | t :: rest => set (⟨t.line, rest⟩ : ParserState); return t

def atSymbol (x : String) : Parser Bool := do
  return (← peek).any (·.kind == .symbol x)

def atName (x : String) : Parser Bool := do
  return (← peek).any (·.kind == .name x)

/-- Whether the symbol follows the last token without a blank between. -/
def touchesSymbol (x : String) : Parser Bool := do
  return (← peek).any fun t => t.kind == .symbol x && t.adjacent

def acceptSymbol (x : String) : Parser Bool := do
  if ← atSymbol x then let _ ← advance; return true else return false

def acceptName (x : String) : Parser Bool := do
  if ← atName x then let _ ← advance; return true else return false

/-- Runs a test only where it applies. -/
def provided (applies : Bool) (test : Parser Bool) : Parser Bool :=
  if applies then test else return false

/-- Goes on only where a condition holds. -/
def require (condition : Bool) : Parser Unit := if condition then return () else failure

def symbol (x : String) : Parser Unit := do require (← acceptSymbol x)

def keyword (x : String) : Parser Unit := do require (← acceptName x)

/-- A word that is a keyword here because it is imported. -/
def acceptImported (k : Keywords) (x : String) : Parser Bool := provided (k.has x) (acceptName x)

def atEnd : Parser Bool := do return (← peek).isNone

/-- Whether the next token stands on the line of the last one. -/
def continuesLine (lastLine : Nat) : Parser Bool := do
  return (← peek).any (·.line ≤ lastLine)

/-- Words that are never names. -/
def reserved : List String :=
  ["as", "default", "else", "false", "import", "not", "null", "package", "some", "true", "with"]

def isReserved (k : Keywords) (x : String) : Bool :=
  reserved.contains x || (["every", "if", "in"].contains x && k.has x)

def name (k : Keywords) : Parser String := do
  match (← advance).kind with
  | .name x => if isReserved k x then failure else return x
  | _ => failure

/-- The names of the documents that a module is evaluated on. -/
def documents : List String := ["input", "data"]

/-- In a strict module the documents keep their names. -/
def mayHide (k : Keywords) (names : List String) : Bool :=
  ! k.strict || ! names.any documents.contains

def comparison? (x : String) : Option Comparison :=
  match x with
  | "==" => some .equal
  | "!=" => some .different
  | "<" => some .less
  | "<=" => some .lessOrEqual
  | ">" => some .greater
  | ">=" => some .greaterOrEqual
  | _ => none

def union? (x : String) : Option Operator := if x == "|" then some .union else none

def intersection? (x : String) : Option Operator := if x == "&" then some .intersection else none

def sum? (x : String) : Option Operator :=
  match x with
  | "+" => some .add
  | "-" => some .subtract
  | _ => none

def product? (x : String) : Option Operator :=
  match x with
  | "*" => some .multiply
  | "/" => some .divide
  | "%" => some .remainder
  | _ => none

/-- Takes the next symbol if it is one of a kind. -/
def accept? (kind : String → Option α) : Parser (Option α) := do
  match ← peek with
  | some ⟨.symbol x, _, _⟩ =>
    match kind x with
    | some op => let _ ← advance; return some op
    | none => return none
  | _ => return none

/-- Operands with operators of one kind between them, from the left. -/
def operands (kind : String → Option Operator) (operand : Parser Term) : Nat → Term → Parser Term
  | 0, _ => failure
  | n + 1, a => do
    match ← accept? kind with
    | some op => operands kind operand n (.operation op a (← operand))
    | none => return a

/-- Takes a number that is written with a minus, which is read as a difference behind an operand. -/
def acceptNegative : Parser (Option Number) := do
  match ← peek with
  | some ⟨.number x, _, _⟩ => if x.mantissa < 0 then let _ ← advance; return some x else return none
  | _ => return none

def sumOperands (operand : Parser Term) : Nat → Term → Parser Term
  | 0, _ => failure
  | n + 1, a => do
    match ← acceptNegative with
    | some x => sumOperands operand n (.operation .subtract a (.constant (.number x.neg)))
    | none =>
      match ← accept? sum? with
      | some op => sumOperands operand n (.operation op a (← operand))
      | none => return a

def comparisonOperands (operand : Parser Term) : Nat → Term → Parser Term
  | 0, _ => failure
  | n + 1, a => do
    match ← accept? comparison? with
    | some op => comparisonOperands operand n (.comparison op a (← operand))
    | none => return a

def memberOperands (k : Keywords) (operand : Parser Term) : Nat → Term → Parser Term
  | 0, _ => failure
  | n + 1, a => do
    if ← acceptImported k "in" then memberOperands k operand n (.member none a (← operand))
    else return a

/-- The place in the text that is reached, counted from its end. -/
def site : Parser Nat := do return (← get).rest.length

end Parser

end Clearance.Rego
