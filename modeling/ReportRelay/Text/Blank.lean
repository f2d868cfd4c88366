/-
# White space

The characters with the white space property, and trimming.
-/
import ReportRelay.Text.Ranges

namespace ReportRelay.Text

/-- The code points with the white space property. -/
def blankRanges : CodeRanges :=
  [(0x0009, 0x000D), (0x0020, 0x0020), (0x0085, 0x0085), (0x00A0, 0x00A0), (0x1680, 0x1680),
    (0x2000, 0x200A), (0x2028, 0x2029), (0x202F, 0x202F), (0x205F, 0x205F), (0x3000, 0x3000)]

/-- Tells whether the character is white space. -/
def isBlank (c : Char) : Bool := blankRanges.has c.toNat

/-- The text without the white space at its two ends. -/
def trim (text : List Char) : List Char :=
  ((text.dropWhile isBlank).reverse.dropWhile isBlank).reverse

end ReportRelay.Text
