/-! The grammar of JSON texts. Each relation says what a text starts with and what stands behind
that. Strings, lists and objects come with what they hold; of other values only those are told apart
that are integers. Nothing here refers to a reader. -/
namespace Clearance.Json.Grammar

/-- Any number of the four blank characters. -/
inductive Blank : List Char → List Char → Prop
  | none (rest : List Char) : Blank rest rest
  | more {c : Char} {s rest : List Char} (blank : c ∈ [' ', '\t', '\n', '\r'])
      (later : Blank s rest) : Blank (c :: s) rest

/-! ## Strings -/

def HexDigit (c : Char) (n : Nat) : Prop :=
  "0123456789abcdef".toList[n]? = some c ∨ "0123456789ABCDEF".toList[n]? = some c

/-- Four hexadecimal digits. -/
inductive HexCode : List Char → Nat → List Char → Prop
  | digits {a b c d : Char} {i j k l : Nat} (rest : List Char) (first : HexDigit a i)
      (second : HexDigit b j) (third : HexDigit c k) (fourth : HexDigit d l) :
      HexCode (a :: b :: c :: d :: rest) (((i * 16 + j) * 16 + k) * 16 + l) rest

def IsHighSurrogate (n : Nat) : Prop := 0xD800 ≤ n ∧ n < 0xDC00

def IsLowSurrogate (n : Nat) : Prop := 0xDC00 ≤ n ∧ n < 0xE000

/-- The code of the character that two halves stand for. -/
def pairCode (high low : Nat) : Nat := 0x10000 + (high - 0xD800) * 0x400 + (low - 0xDC00)

/-- The letters that may follow a backslash, and what they stand for. -/
def letters : List (Char × Char) :=
  [('"', '"'), ('\\', '\\'), ('/', '/'), ('b', '\x08'), ('f', '\x0c'), ('n', '\n'), ('r', '\r'),
    ('t', '\t')]

/-- What follows a backslash. The halves of a pair are the codes of no characters; they stand for
one only together. -/
inductive Escape : List Char → Char → List Char → Prop
  | letter {e c : Char} (rest : List Char) (known : (e, c) ∈ letters) : Escape (e :: rest) c rest
  | code {s rest : List Char} {c : Char} (code : HexCode s c.toNat rest) : Escape ('u' :: s) c rest
  | pair {s t rest : List Char} {c : Char} {high low : Nat}
      (first : HexCode s high ('\\' :: 'u' :: t)) (isHigh : IsHighSurrogate high)
      (second : HexCode t low rest) (isLow : IsLowSurrogate low)
      (joined : c.toNat = pairCode high low) : Escape ('u' :: s) c rest

/-- The characters of a string up to its closing quote. Control characters must be escaped. -/
inductive Chars : List Char → List Char → List Char → Prop
  | quote (rest : List Char) : Chars ('"' :: rest) [] rest
  | escape {s t cs rest : List Char} {c : Char} (head : Escape s c t) (tail : Chars t cs rest) :
      Chars ('\\' :: s) (c :: cs) rest
  | plain {s cs rest : List Char} {c : Char} (notQuote : c ≠ '"') (notBackslash : c ≠ '\\')
      (visible : 0x20 ≤ c.toNat) (tail : Chars s cs rest) : Chars (c :: s) (c :: cs) rest

inductive Quoted : List Char → String → List Char → Prop
  | quoted {s cs rest : List Char} (chars : Chars s cs rest) :
      Quoted ('"' :: s) (String.ofList cs) rest

/-! ## Lists and objects -/

section Bracketed
variable {α : Type}

/-- The entries behind the first one, up to a closing bracket. -/
inductive Further (closing : Char) (entry : List Char → α → List Char → Prop) :
    List Char → List α → List Char → Prop
  | done {s rest : List Char} (blank : Blank s (closing :: rest)) : Further closing entry s [] rest
  | next {s comma start t rest : List Char} {a : α} {as : List α} (before : Blank s (',' :: comma))
      (behind : Blank comma start) (head : entry start a t) (tail : Further closing entry t as rest) :
      Further closing entry s (a :: as) rest

/-- Entries with commas between them, up to a closing bracket. -/
inductive Entries (closing : Char) (entry : List Char → α → List Char → Prop) :
    List Char → List α → List Char → Prop
  | done {s rest : List Char} (blank : Blank s (closing :: rest)) : Entries closing entry s [] rest
  | first {s start t rest : List Char} {a : α} {as : List α} (before : Blank s start)
      (head : entry start a t) (tail : Further closing entry t as rest) :
      Entries closing entry s (a :: as) rest

inductive ListOf (item : List Char → α → List Char → Prop) : List Char → List α → List Char → Prop
  | list {s rest : List Char} {as : List α} (items : Entries ']' item s as rest) :
      ListOf item ('[' :: s) as rest

/-- A key, a colon and a value. -/
inductive Member (value : List Char → α → List Char → Prop) :
    List Char → String × α → List Char → Prop
  | member {s t colon start rest : List Char} {key : String} {a : α} (named : Quoted s key t)
      (before : Blank t (':' :: colon)) (behind : Blank colon start) (content : value start a rest) :
      Member value s (key, a) rest

/-- An object by its members in their order. -/
inductive ObjectOf (value : List Char → α → List Char → Prop) :
    List Char → List (String × α) → List Char → Prop
  | object {s rest : List Char} {ms : List (String × α)}
      (members : Entries '\x7d' (Member value) s ms rest) : ObjectOf value ('\x7b' :: s) ms rest

/-- A text that holds one value, with blanks around it. -/
def Whole (value : List Char → α → List Char → Prop) (text : String) (a : α) : Prop :=
  ∃ start rest, Blank text.toList start ∧ value start a rest ∧ Blank rest []

end Bracketed

/-! ## Numbers -/

/-- The whole part of a number by its digits: a zero alone, or digits that do not start with one. -/
inductive WholePart : List Char → List Char → List Char → Prop
  | zero (rest : List Char) : WholePart ('0' :: rest) ['0'] rest
  | digits {d : Char} {ds : List Char} (rest : List Char)
      (digits : ∀ x ∈ d :: ds, x.isDigit = true) (nonzero : d ≠ '0') :
      WholePart (d :: ds ++ rest) (d :: ds) rest

/-- A fraction by its digits. It may be absent. -/
inductive FractionPart : List Char → List Char → List Char → Prop
  | absent (rest : List Char) : FractionPart rest [] rest
  | present {d : Char} {ds : List Char} (rest : List Char)
      (digits : ∀ x ∈ d :: ds, x.isDigit = true) : FractionPart ('.' :: d :: ds ++ rest) (d :: ds) rest

/-- An exponent. It may be absent, and it may have a sign. -/
inductive ExponentPart : List Char → Bool → List Char → Prop
  | absent (rest : List Char) : ExponentPart rest false rest
  | present {mark d : Char} {sign ds : List Char} (rest : List Char) (marked : mark = 'e' ∨ mark = 'E')
      (signed : sign = [] ∨ sign = ['+'] ∨ sign = ['-'])
      (digits : ∀ x ∈ d :: ds, x.isDigit = true) :
      ExponentPart (mark :: sign ++ (d :: ds ++ rest)) true rest

/-- A number, with its value if it is an integer. A number that has a fraction or an exponent is no
integer, and neither is a negative zero. -/
inductive NumberText : List Char → Option Int → List Char → Prop
  | natural {s ds rest : List Char} (whole : WholePart s ds rest) :
      NumberText s (some (Nat.ofDigitChars 10 ds 0)) rest
  | negative {s ds rest : List Char} (whole : WholePart s ds rest) (nonzero : ds ≠ ['0']) :
      NumberText ('-' :: s) (some (-Nat.ofDigitChars 10 ds 0)) rest
  | negativeZero (rest : List Char) : NumberText ('-' :: '0' :: rest) none rest
  | other {sign s t u ds fraction rest : List Char} {exponent : Bool}
      (signed : sign = [] ∨ sign = ['-']) (whole : WholePart s ds t)
      (fractional : FractionPart t fraction u) (exponential : ExponentPart u exponent rest)
      (further : fraction ≠ [] ∨ exponent = true) : NumberText (sign ++ s) none rest

/-! ## Any value -/

/-- The characters of a string whose text is of no account. Here a code may be half of a pair. -/
inductive AnyChars : List Char → List Char → Prop
  | quote (rest : List Char) : AnyChars ('"' :: rest) rest
  | letter {e c : Char} {s rest : List Char} (known : (e, c) ∈ letters) (tail : AnyChars s rest) :
      AnyChars ('\\' :: e :: s) rest
  | code {s t rest : List Char} {n : Nat} (code : HexCode s n t) (tail : AnyChars t rest) :
      AnyChars ('\\' :: 'u' :: s) rest
  | plain {c : Char} {s rest : List Char} (notQuote : c ≠ '"') (notBackslash : c ≠ '\\')
      (visible : 0x20 ≤ c.toNat) (tail : AnyChars s rest) : AnyChars (c :: s) rest

/-- A value without brackets. -/
inductive Scalar : List Char → Option Int → List Char → Prop
  | nullWord (rest : List Char) : Scalar ('n' :: 'u' :: 'l' :: 'l' :: rest) none rest
  | trueWord (rest : List Char) : Scalar ('t' :: 'r' :: 'u' :: 'e' :: rest) none rest
  | falseWord (rest : List Char) : Scalar ('f' :: 'a' :: 'l' :: 's' :: 'e' :: rest) none rest
  | string {s rest : List Char} (chars : AnyChars s rest) : Scalar ('"' :: s) none rest
  | number {s rest : List Char} {x : Option Int} (number : NumberText s x rest) : Scalar s x rest

/-- A member whose key is of no account. -/
inductive AnyMember {α : Type} (value : List Char → α → List Char → Prop) :
    List Char → α → List Char → Prop
  | member {s t colon start rest : List Char} {a : α} (named : AnyChars s t)
      (before : Blank t (':' :: colon)) (behind : Blank colon start) (content : value start a rest) :
      AnyMember value ('"' :: s) a rest

/-- A value in which brackets stand inside each other no more than `depth` times, and the integer
that it is, if it is one. -/
def AnyValue : Nat → List Char → Option Int → List Char → Prop
  | 0, s, x, rest => Scalar s x rest
  | depth + 1, s, x, rest => Scalar s x rest ∨ x = none ∧
      ((∃ t xs, s = '[' :: t ∧ Entries ']' (AnyValue depth) t xs rest) ∨
        ∃ t xs, s = '\x7b' :: t ∧ Entries '\x7d' (AnyMember (AnyValue depth)) t xs rest)

end Clearance.Json.Grammar
