import Mathlib.Tactic
import RateLimit.Text.Hex

/-!
# Hexadecimal digits tell numbers apart

The digits of a number can be read back, with or without zeros in front: `ofHex_hex`.
-/

namespace RateLimit.Text

/-- The number that hexadecimal digits stand for. -/
def ofHex (cs : List Char) : Nat := cs.foldl (fun n c => 16 * n + (hexDigit? c).getD 0) 0

theorem ofHex_concat (cs : List Char) (c : Char) :
    ofHex (cs ++ [c]) = 16 * ofHex cs + (hexDigit? c).getD 0 := by
  simp [ofHex]

theorem hexDigit?_digitChar {d : Nat} (h : d < 16) : hexDigit? d.digitChar = some d := by
  interval_cases d <;> decide

theorem ofHex_toDigits (n : Nat) : ofHex (Nat.toDigits 16 n) = n := by
  induction n using Nat.strong_induction_on with
  | _ n ih =>
      rcases Nat.lt_or_ge n 16 with hlt | hle
      · rw [Nat.toDigits_of_lt_base hlt]
        simp [ofHex, hexDigit?_digitChar hlt]
      · rw [Nat.toDigits_of_base_le (by decide) hle, ofHex_concat,
          ih _ (Nat.div_lt_self (by omega) (by decide)),
          hexDigit?_digitChar (Nat.mod_lt n (by decide)), Option.getD_some]
        omega

theorem ofHex_hex (width n : Nat) : ofHex (hex width n) = n := by
  have hzeros : ∀ k, (List.replicate k '0').foldl
      (fun n c => 16 * n + (hexDigit? c).getD 0) 0 = 0 := by
    intro k
    induction k with
    | zero => rfl
    | succ k ih => exact ih
  unfold ofHex hex
  rw [List.foldl_append, hzeros]
  exact ofHex_toDigits n

theorem hex_injective (width : Nat) : Function.Injective (hex width) :=
  Function.LeftInverse.injective (ofHex_hex width)

end RateLimit.Text
