import RateLimit.Text.Hex
import RateLimit.Text.Printable

/-!
# Quoted text

`quote s` writes `s` between quotes so that it can be read on one line: single
quotes, or double quotes when the text holds single quotes and no double ones.
The quote in use, the backslash and every character that is not printable are
escaped. `toAscii` escapes what is not ASCII in a text that is quoted already.
-/

namespace RateLimit.Text

/-- The mark that a text is quoted with. -/
def quoteMark (cs : List Char) : Char :=
  if cs.contains '\'' && !cs.contains '"' then '"' else '\''

/-- The escape of a character: two, four or eight hexadecimal digits. -/
def escapeChar (c : Char) : List Char :=
  if c.toNat < 0x100 then '\\' :: 'x' :: hex 2 c.toNat
  else if c.toNat < 0x10000 then '\\' :: 'u' :: hex 4 c.toNat
  else '\\' :: 'U' :: hex 8 c.toNat

/-- A character inside quotes. -/
def quoteChar (mark c : Char) : List Char :=
  if c = mark || c = '\\' then ['\\', c]
  else if c = '\n' then ['\\', 'n']
  else if c = '\r' then ['\\', 'r']
  else if c = '\t' then ['\\', 't']
  else if isPrintable c then [c]
  else escapeChar c

/-- A text between quotes. -/
def quote (s : String) : String :=
  let cs := s.toList
  let mark := quoteMark cs
  String.ofList (mark :: cs.flatMap (quoteChar mark) ++ [mark])

/-- A text with escapes in place of what is not ASCII. -/
def toAscii (s : String) : String :=
  String.ofList (s.toList.flatMap fun c => if c.toNat < 0x80 then [c] else escapeChar c)

end RateLimit.Text
