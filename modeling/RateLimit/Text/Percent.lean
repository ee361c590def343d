import RateLimit.Text.Hex
import RateLimit.Text.Utf8

/-!
# Percent escapes

In a URL a byte may be written as a percent sign and two hexadecimal digits.
`unescape` undoes these escapes and reads the bytes as UTF-8, and `escape` writes
the bytes of all characters but the plain ones in this way.
-/

namespace RateLimit.Text

/-- The bytes of a text whose escapes are undone. -/
def unescapedBytes : List Char → List UInt8
  | '%' :: a :: b :: rest =>
    match hexDigit? a, hexDigit? b with
    | some high, some low => UInt8.ofNat (16 * high + low) :: unescapedBytes rest
    | _, _ => charBytes '%' ++ unescapedBytes (a :: b :: rest)
  | c :: rest => charBytes c ++ unescapedBytes rest
  | [] => []
termination_by cs => cs.length

/-- Undoes the escapes of a text. -/
def unescape (cs : List Char) : String := String.ofList (readBytes (unescapedBytes cs))

/-- The characters that stand for themselves in a URL. -/
def isPlain (c : Char) : Bool :=
  c.isAlphanum || "_.-~:/%#?=@[]!$&'()*+,;".toList.contains c

/-- Writes a text so that it can stand in a URL. -/
def escape (s : String) : String :=
  String.ofList (s.toList.flatMap fun c =>
    if isPlain c then [c]
    else (charBytes c).flatMap fun b => '%' :: (hex 2 b.toNat).map Char.toUpper)

end RateLimit.Text
