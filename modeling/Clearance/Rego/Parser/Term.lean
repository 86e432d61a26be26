import Clearance.Rego.Parser.Basic

/-! Reading terms and statements. What reads a phrase takes a number of steps that bounds how deep
phrases nest and how long they are. A phrase that may begin with a term takes that term, if it has
been read already, as its `start`. -/
namespace Clearance.Rego

namespace Parser

def constant (v : Value) : Term := .constant v

/-- Whether the next phrase cannot begin with a term. -/
def atOperator : Parser Bool := do
  return (← atSymbol "-") || (← atSymbol "(")

mutual
/-- A term without operators. Names and keys can be selected in all but single values. -/
def term (k : Keywords) : Nat → Parser Term
  | 0 => failure
  | n + 1 => do
    match (← advance).kind with
    | .string _ s => return constant (.string s)
    | .rawString s => return constant (.string s)
    | .number x => return constant (.number x)
    | .symbol "[" => selections k n (← arrayTail k n)
    | .symbol "\x7b" => selections k n (← braceTail k n)
    | .symbol _ => failure
    | .name "true" => return Term.truth
    | .name "false" => return constant (.boolean false)
    | .name "null" => return constant .null
    | .name x => if isReserved k x then failure else selections k n (.var x)

/-- Names, keys and argument lists behind a term. -/
def selections (k : Keywords) : Nat → Term → Parser Term
  | 0, _ => failure
  | n + 1, t => do
    if ← touchesSymbol "." then
      symbol "."
      selections k n (.field t (← name k))
    else if ← touchesSymbol "[" then
      symbol "["
      selections k n (← key k n t)
    else
      match t.dotted? with
      | none => return t
      | some names =>
        if ← acceptSymbol "(" then
          let arguments ← termsUntil k n ")"
          match names, arguments with
          | ["set"], [] => selections k n (.set [])
          | names, arguments => selections k n (.call (".".intercalate names.reverse) arguments)
        else return t

/-- A quoted string alone between brackets is a name. -/
def key (k : Keywords) : Nat → Term → Parser Term
  | 0, _ => failure
  | n + 1, t => do
    let named : Parser Term := do
      match (← advance).kind with
      | .string written _ =>
        symbol "]"
        return .field t written
      | _ => failure
    let computed : Parser Term := do
      let here ← site
      let key ← membership k n none
      symbol "]"
      return .index here t key
    named <|> computed

def factor (k : Keywords) : Nat → Parser Term
  | 0 => failure
  | n + 1 => do
    if ← acceptSymbol "-" then return .negative (← factor k n)
    else if ← acceptSymbol "(" then
      let t ← expression k n none
      symbol ")"
      return t
    else term k n

def products (k : Keywords) : Nat → Option Term → Parser Term
  | 0, _ => failure
  | n + 1, start => do
    let first ← match start with
      | some t => pure t
      | none => factor k n
    operands product? (factor k n) n first

def sums (k : Keywords) : Nat → Option Term → Parser Term
  | 0, _ => failure
  | n + 1, start => do sumOperands (products k n none) n (← products k n start)

def intersections (k : Keywords) : Nat → Option Term → Parser Term
  | 0, _ => failure
  | n + 1, start => do operands intersection? (sums k n none) n (← sums k n start)

def unions (k : Keywords) : Nat → Option Term → Parser Term
  | 0, _ => failure
  | n + 1, start => do operands union? (intersections k n none) n (← intersections k n start)

def comparisons (k : Keywords) : Nat → Option Term → Parser Term
  | 0, _ => failure
  | n + 1, start => do comparisonOperands (unions k n none) n (← unions k n start)

def membership (k : Keywords) : Nat → Option Term → Parser Term
  | 0, _ => failure
  | n + 1, start => do memberOperands k (comparisons k n none) n (← comparisons k n start)

/-- A membership may also ask for a key together with a value. -/
def expression (k : Keywords) : Nat → Option Term → Parser Term
  | 0, _ => failure
  | n + 1, start => do
    let a ← comparisons k n start
    let withKey : Parser Term := do
      symbol ","
      let b ← comparisons k n none
      require (← acceptImported k "in")
      return .member (some a) b (← comparisons k n none)
    memberOperands k (comparisons k n none) n (← withKey <|> pure a)

/-- The head of a comprehension, if a bar follows it, or else the first phrase of a literal. -/
def headOrFirst (k : Keywords) : Nat → Parser (Term × Bool)
  | 0 => failure
  | n + 1 => do
    if ← atOperator then return (← membership k n none, false)
    let head ← term k n
    if ← acceptSymbol "|" then return (head, true)
    return (← membership k n (some head), false)

/-- Phrases divided by commas up to a closing symbol. A comma may stand behind the last one. -/
def termsUntil (k : Keywords) : Nat → String → Parser (List Term)
  | 0, _ => failure
  | n + 1, closing => do
    if ← acceptSymbol closing then return []
    let t ← membership k n none
    if ← acceptSymbol "," then return t :: (← termsUntil k n closing)
    symbol closing
    return [t]

/-- The phrases behind the first one. -/
def termsBehind (k : Keywords) : Nat → String → Parser (List Term)
  | 0, _ => failure
  | n + 1, closing => do
    if ← acceptSymbol "," then termsUntil k n closing
    else
      symbol closing
      return []

def arrayTail (k : Keywords) : Nat → Parser Term
  | 0 => failure
  | n + 1 => do
    if ← acceptSymbol "]" then return .array []
    let (first, isHead) ← headOrFirst k n
    if isHead then return .arrayFrom first (← statements k n "]")
    else return .array (first :: (← termsBehind k n "]"))

/-- What follows an opening brace inside a term: an object, a set or a comprehension. -/
def braceTail (k : Keywords) : Nat → Parser Term
  | 0 => failure
  | n + 1 => do
    if ← acceptSymbol "\x7d" then return .object []
    let (first, isHead) ← headOrFirst k n
    if isHead then return .setFrom first (← statements k n "\x7d")
    else if ← acceptSymbol ":" then
      let (value, isHead) ← headOrFirst k n
      if isHead then return .objectFrom first value (← statements k n "\x7d")
      else return .object ((first, value) :: (← membersBehind k n))
    else return .set (first :: (← termsBehind k n "\x7d"))

def membersBehind (k : Keywords) : Nat → Parser (List (Term × Term))
  | 0 => failure
  | n + 1 => do
    if ← acceptSymbol "," then
      if ← acceptSymbol "\x7d" then return []
      let key ← membership k n none
      symbol ":"
      let value ← membership k n none
      return (key, value) :: (← membersBehind k n)
    else
      symbol "\x7d"
      return []

/-- What is made equal stands behind a term. -/
def simpleStatement (k : Keywords) : Nat → Parser Statement
  | 0 => failure
  | n + 1 => do
    if ← atOperator then return .term (← expression k n none)
    let a ← term k n
    if ← acceptSymbol ":=" then
      match a with
      | .var x => require (mayHide k [x])
      | _ => pure ()
      return Statement.paired .assign a (← expression k n none)
    else if ← acceptSymbol "=" then return Statement.paired .unify a (← expression k n none)
    else return .term (← expression k n (some a))

def termsTail (k : Keywords) : Nat → Parser (List Term)
  | 0 => failure
  | n + 1 => do
    let t ← term k n
    if ← acceptSymbol "," then return t :: (← termsTail k n) else return [t]

/-- What follows `some`: declared names, or patterns for the items of a collection. -/
def someTail (k : Keywords) : Nat → Parser Statement
  | 0 => failure
  | n + 1 => do
    let patterns ← termsTail k n
    if ← acceptImported k "in" then
      let collection ← comparisons k n none
      match patterns with
      | [item] => return .someIn none item collection
      | [key, item] => return .someIn (some key) item collection
      | _ => failure
    else
      let names ← patterns.mapM fun
        | .var x => pure x
        | _ => failure
      return .declare names

def everyTail (k : Keywords) : Nat → Parser Statement
  | 0 => failure
  | n + 1 => do
    let first ← name k
    let (key, item) ← do
      if ← acceptSymbol "," then pure (some first, ← name k) else pure (none, first)
    keyword "in"
    let collection ← comparisons k n none
    symbol "\x7b"
    return .everyIn key item collection (← statements k n "\x7d")

def statement (k : Keywords) : Nat → Parser Statement
  | 0 => failure
  | n + 1 => do
    if ← acceptName "some" then someTail k n
    else if ← acceptName "not" then return .negation (← simpleStatement k n)
    else if ← acceptImported k "every" then everyTail k n
    else simpleStatement k n

/-- One or more statements up to a closing symbol, each on a line of its own or behind a
semicolon. -/
def statements (k : Keywords) : Nat → String → Parser (List Statement)
  | 0, _ => failure
  | n + 1, closing => do
    let s ← statement k n
    let lastLine := (← get).lastLine
    if ← acceptSymbol closing then return [s]
    let divided ← acceptSymbol ";"
    if ← provided (! divided) (continuesLine lastLine) then failure
    return s :: (← statements k n closing)
end

end Parser

end Clearance.Rego
