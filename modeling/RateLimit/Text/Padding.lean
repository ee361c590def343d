/-!
# Padding

Texts brought to a least width. A text that is wider already stays as it is.
-/

namespace RateLimit.Text

/-- A text with a character repeated in front of it. -/
def padStart (c : Char) (width : Nat) (s : String) : String :=
  String.ofList (List.replicate (width - s.length) c ++ s.toList)

/-- A text with a character repeated after it. -/
def padEnd (c : Char) (width : Nat) (s : String) : String :=
  String.ofList (s.toList ++ List.replicate (width - s.length) c)

/-- A number with zeros in front of its digits, and behind its sign. -/
def zeroPadded (width : Nat) (n : Int) : String :=
  if n < 0 then "-" ++ padStart '0' (width - 1) (toString n.natAbs)
  else padStart '0' width (toString n)

end RateLimit.Text
