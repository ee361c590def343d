import RateLimit.Text.Quoted

/-!
# Code points

An escape may stand for half a character. `joinHalves` puts two halves that follow
each other together, and a list of code points in which no half is left is a text,
`ofPoints`. Of other lists only an approximation is a text, `lossyText`, but every
list can be quoted: `quotePoints`.
-/

namespace RateLimit.Text

/-- Whether a code point is the first half of a character. -/
def isHighHalf (n : Nat) : Bool := 0xd800 ≤ n && n < 0xdc00

/-- Whether a code point is the second half of a character. -/
def isLowHalf (n : Nat) : Bool := 0xdc00 ≤ n && n < 0xe000

/-- Whether a code point is half a character. -/
def isHalf (n : Nat) : Bool := isHighHalf n || isLowHalf n

/-- The code point of the character that two halves make. -/
def joined (high low : Nat) : Nat := 0x10000 + (high - 0xd800) * 0x400 + (low - 0xdc00)

/-- Puts halves together, wherever the second one follows the first. -/
def joinHalves : List Nat → List Nat
  | high :: low :: rest =>
    if isHighHalf high && isLowHalf low then joined high low :: joinHalves rest
    else high :: joinHalves (low :: rest)
  | points => points

/-- The text of code points without halves. -/
def ofPoints (points : List Nat) : String := String.ofList (points.map Char.ofNat)

/-- A text with three replacement characters, one for each byte, in place of every
half. -/
def lossyText (points : List Nat) : String :=
  String.ofList (points.flatMap fun n =>
    if isHalf n then List.replicate 3 '\ufffd' else [Char.ofNat n])

/-- Code points between quotes. Halves are escaped. -/
def quotePoints (points : List Nat) : String :=
  let mark := quoteMark ((points.filter (!isHalf ·)).map Char.ofNat)
  let quoted := points.flatMap fun n =>
    if isHalf n then '\\' :: 'u' :: hex 4 n else quoteChar mark (Char.ofNat n)
  String.ofList (mark :: quoted ++ [mark])

/-- A character is no half of one. -/
theorem isHalf_toNat (c : Char) : isHalf c.toNat = false := by
  have h : c.toNat < 0xd800 ∨ 0xdfff < c.toNat ∧ c.toNat < 0x110000 := c.valid
  simp only [isHalf, isHighHalf, isLowHalf, Bool.or_eq_false_iff, Bool.and_eq_false_iff,
    decide_eq_false_iff_not]
  omega

/-- The code points of characters have no halves to put together. -/
theorem joinHalves_map_toNat (cs : List Char) :
    joinHalves (cs.map Char.toNat) = cs.map Char.toNat := by
  induction cs with
  | nil => rfl
  | cons c cs ih =>
    cases cs with
    | nil => rfl
    | cons d cs =>
      have h : isHighHalf c.toNat = false := (Bool.or_eq_false_iff.mp (isHalf_toNat c)).1
      rw [List.map_cons, List.map_cons, joinHalves]
      simp only [h, Bool.false_and, Bool.false_eq_true, if_false]
      rw [← List.map_cons, ih]

theorem ofPoints_map_toNat (cs : List Char) :
    ofPoints (cs.map Char.toNat) = String.ofList cs := by
  have h : Char.ofNat ∘ Char.toNat = id := funext Char.ofNat_toNat
  simp [ofPoints, h]

example : quotePoints [0x61, 0xd83d, 0x27] = "\"a\\ud83d'\"" := by decide +kernel

end RateLimit.Text
