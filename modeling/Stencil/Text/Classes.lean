/-!
# Classes of characters

White space is what Unicode's property `White_Space` says: a template may put it around its
expressions, and `trim` and the reading of numbers drop it from both ends of a text. Names in a
template are words over the ASCII letters, the ASCII digits and `_`; only such names can be written
in a template, so only such names can be registered for a function. All other properties are given
by the ranges of code points that have them.
-/

namespace Stencil.Text

/-- Whether a character lies in one of some ranges of code points, whose ends belong to them. -/
def inRanges (ranges : List (Nat × Nat)) (c : Char) : Bool :=
  ranges.any fun r => r.1 ≤ c.toNat && c.toNat ≤ r.2

/-- The characters with the property `White_Space`. -/
def isBlank (c : Char) : Bool :=
  let n := c.toNat
  (0x09 ≤ n && n ≤ 0x0D) || n == 0x20 || n == 0x85 || n == 0xA0 || n == 0x1680 ||
    (0x2000 ≤ n && n ≤ 0x200A) || n == 0x2028 || n == 0x2029 || n == 0x202F || n == 0x205F ||
    n == 0x3000

/-- A text without the blanks at its two ends. -/
def trim (s : List Char) : List Char :=
  ((s.dropWhile isBlank).reverse.dropWhile isBlank).reverse

/-- ASCII letters, ASCII digits and `_`. -/
def isWordChar (c : Char) : Bool :=
  c.isAlphanum || c == '_'

/-- A word, possibly empty. -/
def isWord (s : String) : Bool :=
  s.toList.all isWordChar

/-- A word that names something: it has at least one character. -/
def isName (s : String) : Bool :=
  !s.isEmpty && isWord s

end Stencil.Text
