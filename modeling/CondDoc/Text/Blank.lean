import CondDoc.Text.Ranges

namespace CondDoc.Text

/-- The white space of Unicode together with the four separator controls U+001C to U+001F. -/
def blankRanges : Ranges :=
  [(0x9, 0xD), (0x1C, 0x20), (0x85, 0x85), (0xA0, 0xA0), (0x1680, 0x1680), (0x2000, 0x200A),
   (0x2028, 0x2029), (0x202F, 0x202F), (0x205F, 0x205F), (0x3000, 0x3000)]

theorem blankRanges_ascending : blankRanges.ascending = true := by decide +kernel

def isBlank (c : Char) : Bool := blankRanges.has c.toNat

/-- The white space of Unicode alone. -/
def isWhite (c : Char) : Bool := isBlank c && (c < '\x1c' || '\x1f' < c)

/-- A text without its leading blanks. -/
def trimLeft (cs : List Char) : List Char := cs.dropWhile isBlank

/-- A text without the characters at its two ends that pass a test. -/
def trimWhere (drop : Char → Bool) (cs : List Char) : List Char :=
  ((cs.dropWhile drop).reverse.dropWhile drop).reverse

/-- A text without the blanks at its two ends. -/
def trim (cs : List Char) : List Char := trimWhere isBlank cs

end CondDoc.Text
