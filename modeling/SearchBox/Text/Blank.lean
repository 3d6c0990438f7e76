/-!
This module contains the blank characters and the operations that remove them from the ends of a
text. Two classes occur: the Unicode property `White_Space`, and the slightly larger class of
blanks, which also holds the four information separators.
-/

namespace SearchBox.Text

def isWhiteSpace (c : Char) : Bool :=
  let n := c.toNat
  (9 ≤ n && n ≤ 13) || n == 0x20 || n == 0x85 || n == 0xA0 || n == 0x1680
    || (0x2000 ≤ n && n ≤ 0x200A) || n == 0x2028 || n == 0x2029 || n == 0x202F || n == 0x205F
    || n == 0x3000

/--
Whether `c` is blank: white space, or one of the information separators U+001C to U+001F.
-/
def isBlank (c : Char) : Bool :=
  isWhiteSpace c || (0x1C ≤ c.toNat && c.toNat ≤ 0x1F)

theorem isBlank_space : isBlank ' ' = true := by decide

def trimBy (p : Char → Bool) (cs : List Char) : List Char :=
  ((cs.dropWhile p).reverse.dropWhile p).reverse

def trim (cs : List Char) : List Char :=
  trimBy isBlank cs

end SearchBox.Text
