import Clearance.Text.VisibleTable

/-! Text in double quotes, as it is shown inside a message. Every character that would not be
seen as itself is written as an escape. -/
namespace Clearance.Text

/-- A hidden character by its code point, in small hexadecimal digits. -/
def showCode (c : Char) : List Char :=
  "\\u\x7b".toList ++ Nat.toDigits 16 c.toNat ++ ['\x7d']

def isShown (c : Char) : Bool :=
  if c.toNat < 0x7F then 0x20 ≤ c.toNat
  else ! inRanges extendingRanges c && ! inRanges hiddenRanges c

def showChar (c : Char) : List Char :=
  match c with
  | '\x00' => ['\\', '0']
  | '\t' => ['\\', 't']
  | '\r' => ['\\', 'r']
  | '\n' => ['\\', 'n']
  | '\\' => ['\\', '\\']
  | '"' => ['\\', '"']
  | c => if isShown c then [c] else showCode c

def quoted (s : String) : String :=
  "\"" ++ String.ofList (s.toList.flatMap showChar) ++ "\""

example : quoted "a\"\n'\u200b" = "\"a\\\"\\n'\\u\x7b200b\x7d\"" := by decide +kernel

end Clearance.Text
