import DurableJobs.Text.Ranges

/-!
# Blank characters

The characters that count as white space around a text: the property White_Space of Unicode, which
has the no-break spaces in it and neither the zero width ones nor the separators U+001C to U+001F.
-/

set_option autoImplicit false

namespace DurableJobs.Text

/-- The code points with the property White_Space. -/
def blankRanges : List (Nat × Nat) := [
  (9, 13), (32, 32), (133, 133), (160, 160), (5760, 5760), (8192, 8202), (8232, 8233),
  (8239, 8239), (8287, 8287), (12288, 12288)
]

def isBlank (c : Char) : Bool := inRanges blankRanges c.toNat

def trimStart (cs : List Char) : List Char := cs.dropWhile isBlank

def trimEnd (cs : List Char) : List Char := (cs.reverse.dropWhile isBlank).reverse

def trim (cs : List Char) : List Char := trimEnd (trimStart cs)

end DurableJobs.Text
