/-!
# White space

The characters that count as blanks between words, and trimming them off the ends of a text.

    trim (b ++ s ++ e) = s        (b, e blank; s empty or without blanks at its ends)
-/

namespace ProxyRouting.Text

/-- White space: ASCII blanks, the next-line control, and the spaces of other scripts. -/
def isBlank (c : Char) : Bool :=
  let n := c.toNat
  (9 ≤ n && n ≤ 13) || n == 0x20 || n == 0x85 || n == 0xA0 || n == 0x1680 ||
    (0x2000 ≤ n && n ≤ 0x200A) || n == 0x2028 || n == 0x2029 || n == 0x202F || n == 0x205F ||
    n == 0x3000

def trimLeft (s : List Char) : List Char :=
  s.dropWhile isBlank

def trimRight (s : List Char) : List Char :=
  (s.reverse.dropWhile isBlank).reverse

/-- Drops blanks at both ends. -/
def trim (s : List Char) : List Char :=
  trimRight (trimLeft s)

end ProxyRouting.Text
