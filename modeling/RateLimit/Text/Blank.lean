/-!
# White space

`isWhiteSpace` is the Unicode property of that name. `isBlank` adds the four
information separators, which most text tools treat as space too. `trim` drops
the characters of a class at both ends of a text, and `strip` is `trim` for
blanks.
-/

namespace RateLimit.Text

/-- The Unicode property of being white space. -/
def isWhiteSpace (c : Char) : Bool :=
  let n := c.toNat
  (0x9 ≤ n && n ≤ 0xd) || n == 0x20 || n == 0x85 || n == 0xa0 || n == 0x1680
    || (0x2000 ≤ n && n ≤ 0x200a) || n == 0x2028 || n == 0x2029 || n == 0x202f
    || n == 0x205f || n == 0x3000

/-- White space or an information separator. -/
def isBlank (c : Char) : Bool :=
  isWhiteSpace c || (0x1c ≤ c.toNat && c.toNat ≤ 0x1f)

/-- Drops the characters of a class at both ends. -/
def trim (p : Char → Bool) (cs : List Char) : List Char :=
  ((cs.dropWhile p).reverse.dropWhile p).reverse

/-- A text without blanks at either end. -/
def strip (s : String) : String := String.ofList (trim isBlank s.toList)

end RateLimit.Text
