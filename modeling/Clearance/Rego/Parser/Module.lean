import Clearance.Rego.Parser.Term

/-! Reading rules, modules and queries. A text has enough steps for all its tokens. -/
namespace Clearance.Rego

namespace Parser

/-! ## Heads -/

/-- A step of the path in the head of a rule. -/
inductive HeadKey where
  | word (s : String)
  /-- A quoted string: as it is written, and its value. -/
  | quoted (written value : String)
  | computed (t : Term)

namespace HeadKey

/-- The name by which a step is found. -/
def name? : HeadKey → Option String
  | word s => some s
  | quoted written _ => some written
  | computed _ => none

def term : HeadKey → Term
  | word s => constant (.string s)
  | quoted _ value => constant (.string value)
  | computed t => t

def isBracket : HeadKey → Bool
  | word _ => false
  | _ => true

end HeadKey

def headKeys (k : Keywords) : Nat → Parser (List HeadKey)
  | 0 => failure
  | n + 1 => do
    if ← touchesSymbol "." then
      symbol "."
      return .word (← name k) :: (← headKeys k n)
    else if ← touchesSymbol "[" then
      symbol "["
      let quoted : Parser HeadKey := do
        match (← advance).kind with
        | .string written value =>
          symbol "]"
          return .quoted written value
        | _ => failure
      let computed : Parser HeadKey := do
        let t ← membership k n none
        symbol "]"
        return .computed t
      let key ← quoted <|> computed
      return key :: (← headKeys k n)
    else return []

/-- The path at the start of a rule: its first name, and what is selected below. -/
structure Head where
  name : String
  keys : List HeadKey

namespace Head

/-- The leading steps that have fixed names. -/
def fixed (h : Head) : List HeadKey := h.keys.takeWhile (·.name?.isSome)

def path (h : Head) : List String := h.name :: h.fixed.filterMap HeadKey.name?

/-- The keys that are members of a collection: all from the first computed one on, or else a last
one between brackets. -/
def members (h : Head) : List HeadKey :=
  match h.keys.drop h.fixed.length with
  | [] => h.fixed.getLast?.toList.filter HeadKey.isBracket
  | computed => computed

/-- The path to the collection. -/
def place (h : Head) : List String :=
  h.path.take (1 + h.keys.length - h.members.length)

def isFixed (h : Head) : Bool := h.fixed.length == h.keys.length

end Head

def head (k : Keywords) (n : Nat) : Parser Head := do
  let x ← name k
  require (mayHide k [x])
  return ⟨x, ← headKeys k n⟩

/-! ## Rules -/

/-- A body in braces, or a single statement behind `if`. -/
def bodyAfterIf (k : Keywords) (n : Nat) : Parser (List Statement) :=
  (do symbol "\x7b"; statements k n "\x7d") <|> (do return [← statement k n])

def body? (k : Keywords) (n : Nat) : Parser (Option (List Statement)) := do
  if ← atName "if" then
    require (k.has "if")
    keyword "if"
    return some (← bodyAfterIf k n)
  else if ← provided (! k.strict) (acceptSymbol "\x7b") then return some (← statements k n "\x7d")
  else return none

def value? (k : Keywords) (n : Nat) : Parser (Option Term) := do
  if ← acceptSymbol ":=" then return some (← expression k n none)
  else if ← acceptSymbol "=" then return some (← expression k n none)
  else return none

/-- Further bodies, each directly behind the one before. They do not repeat the value of the first.
-/
def moreBodies (k : Keywords) : Nat → Parser (List Branch)
  | 0 => failure
  | n + 1 => do
    if ← acceptSymbol "\x7b" then
      let body ← statements k n "\x7d"
      return ⟨body, none⟩ :: (← moreBodies k n)
    else return []

/-- Nothing can follow an alternative without a body. -/
def elseBranches (k : Keywords) : Nat → Parser (List Branch)
  | 0 => failure
  | n + 1 => do
    if ! (← acceptName "else") then return []
    let value ← value? k n
    match ← body? k n with
    | some body => return ⟨body, value⟩ :: (← elseBranches k n)
    | none =>
      require value.isSome
      if ← atName "else" then failure
      return [⟨[], value⟩]

/-- The branches of a rule with a head of some value. `standsAlone` tells whether the head needs
neither a value nor a body. -/
def branches (k : Keywords) (n : Nat) (value : Option Term) (standsAlone : Bool) :
    Parser (Branch × List Branch) := do
  match ← body? k n with
  | some body => return (⟨body, value⟩, (← moreBodies k n) ++ (← elseBranches k n))
  | none =>
    require (value.isSome || standsAlone)
    return (⟨[], value⟩, [])

def rule (k : Keywords) (n : Nat) : Parser Rule := do
  let h ← head k n
  if ← acceptSymbol "(" then
    require h.isFixed
    let parameters ← termsUntil k n ")"
    let (first, others) ← branches k n (← value? k n) (! k.strict)
    return ⟨h.path, h.path, .function parameters, first, others⟩
  else if ← acceptName "contains" then
    require h.isFixed
    let item ← expression k n none
    let (first, others) ← branches k n none true
    return ⟨h.path, h.path, .item item, first, others⟩
  else
    let value ← value? k n
    let standsFree := value.isNone && ! k.strict && ! (← atName "if")
    let (first, others) ← branches k n value (! k.strict)
    match h.members with
    | [] => return ⟨h.path, h.place, .whole, first, others⟩
    | [key] =>
      if standsFree then return ⟨h.path, h.place, .item key.term, first, others⟩
      else return ⟨h.path, h.place, .member [key.term], first, others⟩
    | keys => return ⟨h.path, h.place, .member (keys.map HeadKey.term), first, others⟩

def default (k : Keywords) (n : Nat) : Parser Default := do
  let h ← head k n
  require h.isFixed
  if ! (← acceptSymbol ":=") then symbol "="
  return ⟨h.path, ← term k n⟩

/-! ## Modules -/

/-- A name with keys that are words or strings. -/
def staticPath (k : Keywords) (n : Nat) : Parser (List String) := do
  let h : Head := ⟨← name k, ← headKeys k n⟩
  require h.isFixed
  return h.path

/-- What an import of keywords makes of the keywords so far. A strict module has no other. -/
def importing (path : List String) (k : Keywords) : Option (Option Keywords) :=
  match path with
  | ["rego", "v1"] =>
    some (if k.strict || ! k.words.isEmpty then none
      else some { k.adding Keywords.importable with strict := true })
  | ["future", "keywords"] => some (if k.strict then none else some (k.adding Keywords.importable))
  | ["future", "keywords", word] =>
    some (if k.strict || ! Keywords.importable.contains word then none else some (k.adding [word]))
  | _ => none

def imports : Nat → Keywords → List Import → Parser (Keywords × List Import)
  | 0, _, _ => failure
  | n + 1, k, done => do
    if ! (← acceptName "import") then return (k, done)
    let path ← staticPath {} n
    match importing path k with
    | some (some k) => imports n k done
    | some none => failure
    | none =>
      let root := path.headD ""
      require (documents.contains root)
      let renamed ← acceptName "as"
      let called ← if renamed then name k else pure (path.getLastD root)
      require (! done.any (·.name == called))
      imports n k (done ++ [⟨called, path, renamed⟩])

def rules (k : Keywords) : Nat → Module → Parser Module
  | 0, _ => failure
  | n + 1, m => do
    if ← atEnd then return m
    if ← acceptName "default" then
      let d ← default k n
      rules k n { m with defaults := m.defaults ++ [d] }
    else
      let r ← rule k n
      rules k n { m with rules := m.rules ++ [r] }

def module (n : Nat) : Parser Module := do
  keyword "package"
  let package ← staticPath {} n
  let (k, imports) ← imports n {} []
  rules k n ⟨package, imports, [], []⟩

/-- Statements up to the end of a text. -/
def queryStatements (k : Keywords) : Nat → Parser (List Statement)
  | 0 => failure
  | n + 1 => do
    let s ← statement k n
    let lastLine := (← get).lastLine
    if ← atEnd then return [s]
    let divided ← acceptSymbol ";"
    if ← provided (! divided) (continuesLine lastLine) then failure
    return s :: (← queryStatements k n)

/-- Reads all tokens of a text as one phrase. -/
def whole (phrase : Nat → Parser α) (text : String) : Option α := do
  let tokens ← Token.ofText text
  let (a, state) ← phrase (32 * (tokens.length + 2)) ⟨0, tokens⟩
  if state.rest.isEmpty then some a else none

end Parser

/-- The module that a text holds. -/
def Module.ofText? (text : String) : Option Module := Parser.whole Parser.module text

/-- The statements of a query. A query has no imports. -/
def queryOfText? (text : String) : Option (List Statement) :=
  Parser.whole (Parser.queryStatements {}) text

end Clearance.Rego
