/-!
# Blank characters

The characters that count as blank space at the ends of a text, and the texts that hold nothing else. Names, numbers and settings are judged by this one class. Zero-width characters do not belong to it.
-/

namespace VectorTable.Text

/-- Blank space: the ASCII controls for tabs, lines and separators, and the space characters of other scripts. -/
def isBlank (c : Char) : Bool :=
  let n := c.toNat
  (9 ≤ n && n ≤ 13) || (28 ≤ n && n ≤ 32) || n == 0x85 || n == 0xA0 || n == 0x1680
    || (0x2000 ≤ n && n ≤ 0x200A) || n == 0x2028 || n == 0x2029 || n == 0x202F || n == 0x205F
    || n == 0x3000

/-- Characters without those at either end that satisfy a test. -/
def trimBy (p : Char → Bool) (cs : List Char) : List Char :=
  ((cs.dropWhile p).reverse.dropWhile p).reverse

/-- Whether a text is empty or holds nothing but blanks. -/
def isBlankText (s : String) : Bool :=
  s.toList.all isBlank

end VectorTable.Text
