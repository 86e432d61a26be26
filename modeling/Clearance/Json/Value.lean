import Clearance.Json.Container

/-! Whole JSON values: the compact text of a value, and reading a text as a value. A format says
both for the values of another type. -/
namespace Clearance.Json

inductive Value where
  | null
  | boolean (b : Bool)
  | number (n : Number)
  | string (s : String)
  | array (items : List Value)
  | object (members : List (String × Value))

def Value.ofInt (n : Int) : Value := .number (.integer n)

def Value.ofStrings (xs : List String) : Value := .array (xs.map .string)

/-! ## Writing -/

def Number.text : Number → List Char
  | .integer n => (toString n).toList
  | .real x => (Decimal.Spelling.plain.ofFloat x).toList

mutual
/-- The text of a value without any blanks. -/
def Value.text : Value → List Char
  | .null => ['n', 'u', 'l', 'l']
  | .boolean true => ['t', 'r', 'u', 'e']
  | .boolean false => ['f', 'a', 'l', 's', 'e']
  | .number n => n.text
  | .string s => literal s
  | .array items => '[' :: itemsText items ++ [']']
  | .object members => '{' :: membersText members ++ ['\x7d']

def itemsText : List Value → List Char
  | [] => []
  | [x] => x.text
  | x :: xs => x.text ++ ',' :: itemsText xs

def membersText : List (String × Value) → List Char
  | [] => []
  | [(key, x)] => literal key ++ ':' :: x.text
  | (key, x) :: xs => literal key ++ ':' :: x.text ++ ',' :: membersText xs
end

def Value.compact (v : Value) : String := String.ofList v.text

/-! ## Reading -/

/-- Any value of less than the given depth. -/
def anyValue : Nat → Reader Value
  | 0 => fun s => brokenAtNext .tooDeep s
  | depth + 1 =>
    valueStart fun s =>
      let opened {α : Type} (reader : Reader α) : Reader α := fun rest =>
        if depth = 0 then brokenAtNext .tooDeep s else reader rest
      match s with
      | 'n' :: rest => (word ['u', 'l', 'l'] rest).map fun _ => .null
      | 't' :: rest => (word ['r', 'u', 'e'] rest).map fun _ => .boolean true
      | 'f' :: rest => (word ['a', 'l', 's', 'e'] rest).map fun _ => .boolean false
      | '"' :: rest => (stringTail [] rest).map .string
      | '[' :: rest =>
        opened (fun s => (closedList (items (anyValue depth) (s.length + 1) true [] s)).map .array)
          rest
      | '{' :: rest =>
        opened (fun s => (closedObject (members
          (fun done key => (afterColon (anyValue depth)).map fun x => done ++ [(key, x)])
          (s.length + 1) true [] s)).map .object) rest
      | c :: _ => if startsNumber c then (number s).map .number else brokenAtNext .expectedValue s
      | [] => brokenHere .endInValue []

/-- Values nest less than this deep. -/
def depthLimit : Nat := 128

def Value.ofText (text : String) : Except Error Value := decode (anyValue depthLimit) text

/-! ## Formats -/

/-- How the values of a type are read, and as what they are written. -/
structure Format (α : Type) where
  reader : Reader α
  json : α → Value

namespace Format

def encode (f : Format α) (a : α) : String := (f.json a).compact

def decode (f : Format α) (text : String) : Except Error α := Json.decode f.reader text

/-- Writes anew what a text says. -/
def rewrite (f : Format α) (text : String) : Except Error String := (f.decode text).map f.encode

end Format

end Clearance.Json
