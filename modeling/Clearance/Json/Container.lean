import Clearance.Json.Scalar
import Clearance.Json.Skip

/-! Lists and objects. A reader of members or items stops where a value does not fit; the bracket
around it then looks for its own end, and the fault is reported where that look ends. -/
namespace Clearance.Json

/-! ## Ends -/

def listEnd : Reader Unit := fun s =>
  match skipSpace s with
  | ']' :: rest => .read () rest
  | ',' :: rest =>
    match skipSpace rest with
    | ']' :: rest => brokenAtNext .trailingComma (']' :: rest)
    | rest => brokenAtNext .trailingCharacters rest
  | [] => brokenHere .endInList []
  | rest => brokenAtNext .trailingCharacters rest

/-- Where a search for the end of a list stops. -/
def listStop (s : List Char) : List Char :=
  match skipSpace s with
  | ']' :: rest => rest
  | ',' :: rest => skipSpace rest
  | rest => rest

def objectEnd : Reader Unit := fun s =>
  match skipSpace s with
  | '\x7d' :: rest => .read () rest
  | ',' :: rest => brokenAtNext .trailingComma (',' :: rest)
  | [] => brokenHere .endInObject []
  | rest => brokenAtNext .trailingCharacters rest

/-- Where a search for the end of an object stops. -/
def objectStop (s : List Char) : List Char :=
  match skipSpace s with
  | '\x7d' :: rest => rest
  | rest => rest

/-- Closes a bracket behind its contents. -/
def closed (ending : Reader Unit) (stop : List Char → List Char) (contents : Outcome α) :
    Outcome α :=
  match contents with
  | .read a rest => (ending rest).map fun _ => a
  | .unfit m rest => .broken ⟨.mismatch m, byteCount (stop rest)⟩
  | .broken f => .broken f

def closedList : Outcome α → Outcome α := closed listEnd listStop

def closedObject : Outcome α → Outcome α := closed objectEnd objectStop

/-! ## Items -/

/-- Whether another item follows. The first one has no comma before it. -/
def nextItem (first : Bool) : Reader Bool := fun s =>
  match skipSpace s with
  | [] => brokenHere .endInList []
  | ']' :: rest => .read false (']' :: rest)
  | c :: rest =>
    if first then .read true (c :: rest)
    else if c = ',' then
      match skipSpace rest with
      | [] => brokenHere .endInValue []
      | ']' :: rest => brokenAtNext .trailingComma (']' :: rest)
      | rest => .read true rest
    else brokenAtNext .expectedListCommaOrEnd (c :: rest)

/-- The items up to the end of a list, behind those already read in reverse. Each item takes at
least one character, which bounds their number. -/
def items (item : Reader α) : Nat → Bool → List α → Reader (List α)
  | 0, _, done, s => .read done.reverse s
  | n + 1, first, done, s =>
    (nextItem first s).bind fun more s =>
      if more then (item s).bind fun a s => items item n false (a :: done) s
      else .read done.reverse s

def list (item : Reader α) : Reader (List α) :=
  valueStart fun s =>
    match s with
    | '[' :: rest => closedList (items item (rest.length + 1) true [] rest)
    | s => wrongType "a sequence" s

/-! ## Members -/

/-- The key of the next member, if another one follows. -/
def nextKey (first : Bool) : Reader (Option String) := fun s =>
  match skipSpace s with
  | [] => brokenHere .endInObject []
  | '\x7d' :: rest => .read none ('\x7d' :: rest)
  | c :: rest =>
    if first then
      if c = '"' then (stringTail [] rest).map some else brokenAtNext .keyNotString (c :: rest)
    else if c = ',' then
      match skipSpace rest with
      | '"' :: rest => (stringTail [] rest).map some
      | '\x7d' :: rest => brokenAtNext .trailingComma ('\x7d' :: rest)
      | [] => brokenHere .endInValue []
      | rest => brokenAtNext .keyNotString rest
    else brokenAtNext .expectedObjectCommaOrEnd (c :: rest)

def colon : Reader Unit := fun s =>
  match skipSpace s with
  | ':' :: rest => .read () rest
  | [] => brokenHere .endInObject []
  | rest => brokenAtNext .expectedColon rest

def afterColon (reader : Reader α) : Reader α := fun s => (colon s).bind fun _ s => reader s

/-- The members up to the end of an object. `member` reads what follows a key. -/
def members (member : σ → String → Reader σ) : Nat → Bool → σ → Reader σ
  | 0, _, state, s => .read state s
  | n + 1, first, state, s =>
    (nextKey first s).bind fun key s =>
      match key with
      | some key => (member state key s).bind fun state s => members member n false state s
      | none => .read state s

def objectOf (expected : String) (member : σ → String → Reader σ) (start : σ) : Reader σ :=
  valueStart fun s =>
    match s with
    | '{' :: rest => closedObject (members member (rest.length + 1) true start rest)
    | s => wrongType expected s

/-- An object as a map: its members in order, repeated keys included. -/
def map (value : Reader α) : Reader (List (String × α)) := fun s =>
  (objectOf "a map" (fun done key => (afterColon value).map fun a => (key, a) :: done) [] s).map
    List.reverse

/-! ## Records -/

/-- A field of a record that is filled in step by step. -/
structure Field (σ : Type) where
  name : String
  isSet : σ → Bool
  fill : σ → Reader σ
  required : Bool

/-- What a record is called, what is in it, and how a draft becomes the finished value. -/
structure RecordShape (σ α : Type) where
  kind : String
  fields : List (Field σ)
  blank : σ
  finish : σ → Except Mismatch α

/-- A field that a finished record cannot do without. -/
def required (name : String) : Option α → Except Mismatch α
  | some a => .ok a
  | none => .error (.missingField name)

namespace RecordShape

def find? (shape : RecordShape σ α) (key : String) : Option (Field σ) :=
  shape.fields.find? (·.name == key)

/-- A member of a known name is read once; a member of another name is passed over. -/
def member (shape : RecordShape σ α) (draft : σ) (key : String) : Reader σ :=
  match shape.find? key with
  | none => (afterColon skip).map fun _ => draft
  | some field =>
    if field.isSet draft then fun s => .unfit (.repeatedField key) s
    else afterColon (field.fill draft)

def finished (shape : RecordShape σ α) (draft : σ) : Reader α := fun s =>
  match shape.finish draft with
  | .ok a => .read a s
  | .error m => .unfit m s

def elements (shape : RecordShape σ α) : String :=
  "struct " ++ shape.kind ++ " with " ++ toString shape.fields.length ++ " elements"

/-- The fields of a record that is written as a list, in their order. -/
def inOrder (shape : RecordShape σ α) : List (Field σ) → Nat → σ → Reader σ
  | [], _, draft, s => .read draft s
  | field :: rest, index, draft, s =>
    (nextItem (index == 0) s).bind fun more s =>
      if more then (field.fill draft s).bind fun draft s => shape.inOrder rest (index + 1) draft s
      else if field.required then .unfit (.wrongLength index shape.elements) s
      else shape.inOrder rest index draft s

/-- A record is written as an object, or as the list of its fields. -/
def reader (shape : RecordShape σ α) : Reader α :=
  valueStart fun s =>
    match s with
    | '[' :: rest => closedList ((shape.inOrder shape.fields 0 shape.blank rest).bind shape.finished)
    | '{' :: rest =>
      closedObject
        ((members shape.member (rest.length + 1) true shape.blank rest).bind shape.finished)
    | s => wrongType ("struct " ++ shape.kind) s

end RecordShape

/-! ## Variants -/

/-- One of several names, written as a string, or as an object that maps the name to `null`. -/
def variant (known : List (String × α)) : Reader α :=
  let named (name : String) : Reader α := fun s =>
    match known.find? (·.1 == name) with
    | some (_, a) => .read a s
    | none => .unfit (.unknownVariant name (known.map (·.1))) s
  valueStart fun s =>
    match s with
    | '"' :: rest => ((stringTail [] rest).bind named).located
    | '{' :: rest =>
      match skipSpace rest with
      | [] => brokenHere .endInObject []
      | '"' :: rest =>
        ((stringTail [] rest).bind named).located.bind fun a s =>
          (colon s).bind fun _ s =>
            (null s).bind fun _ s =>
              match skipSpace s with
              | '\x7d' :: rest => .read a rest
              | [] => brokenHere .endInObject []
              | rest => brokenHere .expectedValue rest
      | '\x7d' :: rest => brokenAtNext .expectedValue ('\x7d' :: rest)
      | rest => brokenAtNext .keyNotString rest
    | s => brokenAtNext .expectedValue s

end Clearance.Json
