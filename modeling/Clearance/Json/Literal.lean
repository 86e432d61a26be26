import Clearance.Json.Outcome

/-! String literals: writing, reading with escapes resolved, and skipping. -/
namespace Clearance.Json

/-! ## Writing -/

def hexDigit (n : Nat) : Char := (Nat.toDigits 16 n).headD '0'

/-- Quotes, backslashes and control characters are escaped; all else stands as it is. -/
def escapeChar (c : Char) : List Char :=
  match c with
  | '"' => ['\\', '"']
  | '\\' => ['\\', '\\']
  | '\x08' => ['\\', 'b']
  | '\x0c' => ['\\', 'f']
  | '\n' => ['\\', 'n']
  | '\r' => ['\\', 'r']
  | '\t' => ['\\', 't']
  | c =>
    if c.toNat < 0x20 then ['\\', 'u', '0', '0', hexDigit (c.toNat / 16), hexDigit (c.toNat % 16)]
    else [c]

def escape (s : List Char) : List Char := s.flatMap escapeChar

def literal (s : String) : List Char := '"' :: escape s.toList ++ ['"']

/-! ## Reading -/

/-- The character that a one-letter escape stands for. -/
def shortEscape? : Char → Option Char
  | '"' => some '"'
  | '\\' => some '\\'
  | '/' => some '/'
  | 'b' => some '\x08'
  | 'f' => some '\x0c'
  | 'n' => some '\n'
  | 'r' => some '\r'
  | 't' => some '\t'
  | _ => none

def hexValue? (c : Char) : Option Nat :=
  if '0' ≤ c ∧ c ≤ '9' then some (c.toNat - '0'.toNat)
  else if 'a' ≤ c ∧ c ≤ 'f' then some (c.toNat - 'a'.toNat + 10)
  else if 'A' ≤ c ∧ c ≤ 'F' then some (c.toNat - 'A'.toNat + 10)
  else none

def hexWord? (a b c d : Char) : Option Nat := do
  return (((← hexValue? a) * 16 + (← hexValue? b)) * 16 + (← hexValue? c)) * 16 + (← hexValue? d)

/-- Four bytes that are not four hexadecimal digits. -/
def brokenHex (s : List Char) : Outcome α :=
  if byteCount s < 4 then .broken ⟨.endInString, 0⟩ else brokenAfter 4 .invalidEscape s

def hexWord : Reader Nat := fun s =>
  match s with
  | a :: b :: c :: d :: rest =>
    match hexWord? a b c d with
    | some n => .read n rest
    | none => brokenHex s
  | _ => brokenHex s

def isHighSurrogate (n : Nat) : Bool := 0xD800 ≤ n && n ≤ 0xDBFF

def isLowSurrogate (n : Nat) : Bool := 0xDC00 ≤ n && n ≤ 0xDFFF

def joinSurrogates (high low : Nat) : Char :=
  Char.ofNat ((high - 0xD800) * 0x400 + (low - 0xDC00) + 0x10000)

/-- The second half of a pair, for the given first half. -/
def lowHalf (high : Nat) : Reader Char := fun s =>
  match s with
  | '\\' :: 'u' :: rest =>
    (hexWord rest).bind fun low rest =>
      if isLowSurrogate low then .read (joinSurrogates high low) rest
      else brokenHere .loneSurrogate rest
  | [] | ['\\'] => brokenHere .endInString []
  | '\\' :: rest => brokenAtNext .endOfHexEscape rest
  | rest => brokenAtNext .endOfHexEscape rest

/-- What follows a backslash. -/
def escaped : Reader Char := fun s =>
  match s with
  | [] => brokenHere .endInString []
  | 'u' :: rest =>
    (hexWord rest).bind fun n rest =>
      if isHighSurrogate n then lowHalf n rest
      else if isLowSurrogate n then brokenHere .loneSurrogate rest
      else .read (Char.ofNat n) rest
  | c :: rest =>
    match shortEscape? c with
    | some e => .read e rest
    | none => brokenAtNext .invalidEscape s

theorem hexWord_shorter {s rest : List Char} {n : Nat} (h : hexWord s = .read n rest) :
    rest.length < s.length := by
  unfold hexWord at h
  split at h
  · split at h
    · cases h; simp only [List.length_cons]; omega
    · simp only [brokenHex] at h; split at h <;> cases h
  · simp only [brokenHex] at h; split at h <;> cases h

theorem bind_eq_read {o : Outcome α} {next : α → Reader β} {b : β} {rest : List Char}
    (h : o.bind next = .read b rest) : ∃ a mid, o = .read a mid ∧ next a mid = .read b rest := by
  cases o with
  | read a mid => exact ⟨a, mid, rfl, h⟩
  | broken f => cases h
  | unfit m mid => cases h

theorem lowHalf_shorter {high : Nat} {s rest : List Char} {c : Char}
    (h : lowHalf high s = .read c rest) : rest.length < s.length := by
  unfold lowHalf at h
  split at h
  · obtain ⟨low, mid, hw, hn⟩ := bind_eq_read h
    have := hexWord_shorter hw
    split at hn
    · injection hn with _ hr
      subst hr; simp only [List.length_cons]; omega
    · cases hn
  all_goals cases h

theorem escaped_shorter {s rest : List Char} {c : Char} (h : escaped s = .read c rest) :
    rest.length < s.length := by
  unfold escaped at h
  split at h
  · cases h
  · obtain ⟨n, mid, hw, hn⟩ := bind_eq_read h
    have hmid := hexWord_shorter hw
    split at hn
    · have := lowHalf_shorter hn; simp only [List.length_cons]; omega
    · split at hn
      · cases hn
      · cases hn; simp only [List.length_cons]; omega
  · split at h
    · cases h; simp
    · cases h

/-- The characters up to the closing quote, behind those already read in reverse. -/
def stringTail (done : List Char) (s : List Char) : Outcome String :=
  match s with
  | [] => brokenHere .endInString []
  | '"' :: rest => .read (String.ofList done.reverse) rest
  | '\\' :: rest =>
    match _h : escaped rest with
    | .read c rest' => stringTail (c :: done) rest'
    | .broken f => .broken f
    | .unfit m rest' => .unfit m rest'
  | c :: rest =>
    if c.toNat < 0x20 then brokenAtNext .controlCharacter s else stringTail (c :: done) rest
termination_by s.length
decreasing_by
  · have := escaped_shorter _h; simp only [List.length_cons]; omega
  · simp

/-! ## Skipping -/

/-- What follows a backslash in text that is passed over: a code need not be a character. -/
def skipEscaped : Reader Unit := fun s =>
  match s with
  | [] => brokenHere .endInString []
  | 'u' :: rest => (hexWord rest).map fun _ => ()
  | c :: rest => if (shortEscape? c).isSome then .read () rest else brokenAtNext .invalidEscape s

theorem skipEscaped_shorter {s rest : List Char} (h : skipEscaped s = .read () rest) :
    rest.length < s.length := by
  unfold skipEscaped at h
  split at h
  · cases h
  · obtain ⟨n, mid, hw, hn⟩ := bind_eq_read h
    have := hexWord_shorter hw
    cases hn
    simp only [List.length_cons]; omega
  · split at h
    · cases h; simp
    · cases h

/-- Passes over a string up to its closing quote. -/
def skipString (s : List Char) : Outcome Unit :=
  match s with
  | [] => brokenHere .endInString []
  | '"' :: rest => .read () rest
  | '\\' :: rest =>
    match _h : skipEscaped rest with
    | .read _ rest' => skipString rest'
    | .broken f => .broken f
    | .unfit m rest' => .unfit m rest'
  | c :: rest => if c.toNat < 0x20 then brokenHere .controlCharacter s else skipString rest
termination_by s.length
decreasing_by
  · have := skipEscaped_shorter _h; simp only [List.length_cons]; omega
  · simp

end Clearance.Json
