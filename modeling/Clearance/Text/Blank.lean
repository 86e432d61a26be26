import Clearance.Text.Ranges

/-! Blank characters, by the Unicode property `White_Space`, and trimming. -/
namespace Clearance.Text

/-- The characters with the property `White_Space`. A zero width space is not among them. -/
def blankRanges : List CodeRange :=
  [⟨0x09, 0x0D⟩, ⟨0x20, 0x20⟩, ⟨0x85, 0x85⟩, ⟨0xA0, 0xA0⟩, ⟨0x1680, 0x1680⟩, ⟨0x2000, 0x200A⟩,
    ⟨0x2028, 0x2029⟩, ⟨0x202F, 0x202F⟩, ⟨0x205F, 0x205F⟩, ⟨0x3000, 0x3000⟩]

def isBlank (c : Char) : Bool := inRanges blankRanges c

/-- Drops blanks at both ends. -/
def trim (s : List Char) : List Char :=
  ((s.dropWhile isBlank).reverse.dropWhile isBlank).reverse

def allBlank (s : String) : Bool := s.toList.all isBlank

example : isBlank '\u3000' ∧ ¬ isBlank '\u200b' := by decide
example : trim " \t a b\u00a0".toList = "a b".toList := by decide

end Clearance.Text
