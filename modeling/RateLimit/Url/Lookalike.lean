/-!
# Look-alikes of delimiters

Some characters stand for a slash, a question mark, a number sign, an at sign or a
colon, alone or together with other characters, once their compatibility form is
taken. A name with such a character could come to mean another host, so it is
refused.
-/

namespace RateLimit.Url

/-- The code points whose compatibility form holds a delimiter, in ascending
order. -/
def lookalikes : List Nat := [
  0x2047, 0x2048, 0x2049, 0x2100, 0x2101, 0x2105, 0x2106, 0x2a74, 0xfe13, 0xfe16, 0xfe55,
  0xfe56, 0xfe5f, 0xfe6b, 0xff03, 0xff0f, 0xff1a, 0xff1f, 0xff20]

/-- Whether the compatibility form of a character holds a delimiter. -/
def isLookalike (c : Char) : Bool := lookalikes.contains c.toNat

end RateLimit.Url
