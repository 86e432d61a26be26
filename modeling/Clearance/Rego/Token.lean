import Clearance.Json.Literal
import Clearance.Rego.Number

/-! The tokens of the policy language. Blanks, line ends and comments separate tokens; a token
remembers its line and whether it follows the one before it directly. A null character ends the
text. -/
namespace Clearance.Rego

inductive TokenKind where
  | name (s : String)
  /-- A string in double quotes: as it is written, and with its escapes resolved. -/
  | string (written value : String)
  | rawString (value : String)
  /-- A minus directly before a digit belongs to the number. -/
  | number (n : Number)
  | symbol (s : String)
  deriving DecidableEq, Repr

structure Token where
  kind : TokenKind
  line : Nat
  adjacent : Bool
  deriving DecidableEq, Repr

namespace Token

def startsName (c : Char) : Bool := c.isAlpha || c == '_'

def continuesName (c : Char) : Bool := startsName c || c.isDigit

/-- Symbols, the longer ones first. -/
def symbols : List String :=
  [":=", "==", "!=", "<=", ">=", "<", ">", "=", "+", "-", "*", "/", "%", "(", ")", "[", "]",
    "\x7b", "\x7d", ",", ";", ":", ".", "|", "&"]

def symbol? (s : List Char) : Option (String × List Char) :=
  symbols.findSome? fun x =>
    if x.toList.isPrefixOf s then some (x, s.drop x.length) else none

/-- A number stands apart from names, dots and other digits behind it. -/
def number? (s : List Char) : Option (TokenKind × List Char) :=
  match Json.numeral .invalidNumber s with
  | .read n rest =>
    if rest.head?.any fun c => continuesName c || c == '.' then none
    else (Number.ofNumeral? n).map fun n => (.number n, rest)
  | _ => none

def startsNumber : List Char → Bool
  | '-' :: c :: _ => c.isDigit
  | c :: _ => c.isDigit
  | [] => false

/-- The token at the start of a text that is no blank, and what remains. -/
def next (s : List Char) : Option (TokenKind × List Char) :=
  match s with
  | '"' :: rest =>
    match Json.stringTail [] rest with
    | .read value behind =>
      let written := rest.take (rest.length - behind.length - 1)
      some (.string (String.ofList written) value, behind)
    | _ => none
  | '\x60' :: rest =>
    match rest.dropWhile (· != '\x60') with
    | [] => none
    | _ :: behind => some (.rawString (String.ofList (rest.takeWhile (· != '\x60'))), behind)
  | c :: _ =>
    if startsName c then
      some (.name (String.ofList (s.takeWhile continuesName)), s.dropWhile continuesName)
    else if startsNumber s then number? s
    else (symbol? s).map fun (x, rest) => (.symbol x, rest)
  | [] => none

/-- Whether a text begins with a blank. A carriage return is one only before a line end. -/
def startsBlank : List Char → Bool
  | '\r' :: rest => rest.head? == some '\n'
  | c :: _ => c == ' ' || c == '\t' || c == '\n'
  | [] => false

def isComment (c : Char) : Bool := c != '\n' && c != '\x00'

/-- The tokens of a text; none if it holds something else. `steps` bounds the number of tokens,
blanks and comments. -/
def scan (steps line : Nat) (adjacent : Bool) (s : List Char) : Option (List Token) :=
  match steps, s with
  | _, [] => some []
  | 0, _ => none
  | steps + 1, c :: rest =>
    if c = '\x00' then some []
    else if startsBlank (c :: rest) then
      scan steps (if c = '\n' then line + 1 else line) false rest
    else if c = '#' then scan steps line false (rest.dropWhile isComment)
    else
      match next (c :: rest) with
      | none => none
      | some (kind, behind) =>
        let consumed := (c :: rest).take ((c :: rest).length - behind.length)
        (scan steps (line + consumed.count '\n') true behind).map
          fun tokens => ⟨kind, line, adjacent⟩ :: tokens

def ofText (text : String) : Option (List Token) :=
  scan (text.toList.length + 1) 1 false text.toList

end Token

end Clearance.Rego
