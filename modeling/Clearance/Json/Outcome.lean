import Clearance.Json.Fault

/-! Readers of JSON text. A reader is given the unread rest of a text and answers with a value and
what remains. It can fail in two ways: a broken text ends the reading at once, while a value that
does not fit leaves the reader behind that value, and whatever encloses the value decides where the
fault is reported. -/
namespace Clearance.Json

inductive Outcome (α : Type) where
  | read (value : α) (rest : List Char)
  | broken (fault : Fault)
  | unfit (mismatch : Mismatch) (rest : List Char)
  deriving DecidableEq, Repr

def Reader (α : Type) := List Char → Outcome α

/-- The bytes that a piece of text takes. -/
def byteCount : List Char → Nat
  | [] => 0
  | c :: rest => c.utf8Size + byteCount rest

namespace Outcome

def bind (o : Outcome α) (next : α → Reader β) : Outcome β :=
  match o with
  | .read a rest => next a rest
  | .broken f => .broken f
  | .unfit m rest => .unfit m rest

def map (f : α → β) (o : Outcome α) : Outcome β := o.bind fun a rest => .read (f a) rest

/-- Reports a value that does not fit at the place the reader has reached. -/
def located : Outcome α → Outcome α
  | .unfit m rest => .broken ⟨.mismatch m, byteCount rest⟩
  | o => o

end Outcome

namespace Reader

def pure (a : α) : Reader α := fun rest => .read a rest

def bind (r : Reader α) (next : α → Reader β) : Reader β := fun s => (r s).bind next

instance : Monad Reader where
  pure := Reader.pure
  bind := Reader.bind

def map (f : α → β) (r : Reader α) : Reader β := fun s => (r s).map f

end Reader

/-- A fault at the place itself. -/
def brokenHere (cause : Cause) (rest : List Char) : Outcome α := .broken ⟨cause, byteCount rest⟩

/-- A fault the stated number of bytes further on, or at the end of a shorter text. -/
def brokenAfter (bytes : Nat) (cause : Cause) (rest : List Char) : Outcome α :=
  .broken ⟨cause, byteCount rest - bytes⟩

/-- A fault behind the next byte, the one that cannot stand there. -/
def brokenAtNext (cause : Cause) (rest : List Char) : Outcome α := brokenAfter 1 cause rest

/-- The four blank characters of the format. -/
def isSpace (c : Char) : Bool := c == ' ' || c == '\n' || c == '\t' || c == '\r'

def skipSpace (s : List Char) : List Char := s.dropWhile isSpace

/-- The position behind some bytes of a text. -/
def Position.after (bytes : List UInt8) : Position :=
  ⟨1 + bytes.count 10, (bytes.reverse.takeWhile (· != 10)).length⟩

/-- The position in a text at which some of its bytes are unread. -/
def Position.of (text : String) (unread : Nat) : Position :=
  let bytes := text.toUTF8.toList
  .after (bytes.take (bytes.length - unread))

/-- Reads a whole text as one value. -/
def decode (reader : Reader α) (text : String) : Except Error α :=
  match reader text.toList with
  | .read a rest =>
    match skipSpace rest with
    | [] => .ok a
    | c :: rest =>
      .error ⟨.trailingCharacters, some (.of text (byteCount (c :: rest) - 1))⟩
  | .broken f => .error ⟨f.cause, some (.of text f.unread)⟩
  | .unfit m _ => .error ⟨.mismatch m, none⟩

end Clearance.Json
