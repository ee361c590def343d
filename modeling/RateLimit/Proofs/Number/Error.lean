import RateLimit.Proofs.Number.Nearest

/-!
# Errors of machine arithmetic

A result of moderate size is a number again, `toRat?_ofRat_of_lt`, and as far from the exact
result as one rounding allows. The bounds are those of numbers below 2 ^ 32, in which a clock of
nanoseconds shows seconds: a rounding costs them at most 2 ^ (-22), `abs_roundBinary_sub_le`.
-/

namespace RateLimit.Number

namespace Binary64

theorem abs_lt_twoPow_iff {q : Rat} (e : Nat) : |q| < twoPow e ↔ |q| < 2 ^ e := by
  rw [twoPow_natCast]
  push_cast
  rfl

/-- One rounding of a number below 2 ^ 32. -/
theorem abs_roundBinary_sub_le {q : Rat} (h : |q| < 2 ^ 32) :
    |roundBinary q - q| ≤ 1 / 2 ^ 22 := by
  have hround := abs_sub_roundBinary_le_of_lt ((abs_lt_twoPow_iff 32).mpr h)
  have hunit : twoPow (max (((32 : Nat) : Int) - 53) (-1074)) / 2 = 1 / 2 ^ 22 := by
    norm_num [twoPow]
  rw [abs_sub_comm, ← hunit]
  exact hround

/-- Rounding does not double a number. -/
theorem abs_roundBinary_lt {q : Rat} {e : Int} (he : -1074 ≤ e) (h : |q| < twoPow e) :
    |roundBinary q| < twoPow (e + 1) := by
  have hround := abs_sub_roundBinary_le_of_lt h
  have hunit : twoPow (max (e - 53) (-1074)) ≤ twoPow e := twoPow_le_twoPow (by omega)
  have hpos : 0 < twoPow e := twoPow_pos e
  have hdouble : twoPow (e + 1) = 2 * twoPow e := by
    rw [twoPow_add, mul_comm]
    norm_num [twoPow]
  rw [abs_le] at hround
  rw [abs_lt] at h ⊢
  rw [hdouble]
  constructor <;> linarith

/-- What is smaller than half of the bound is no infinity once it is rounded. -/
theorem toRat?_ofRat_of_lt {q : Rat} (h : |q| < twoPow 1023) :
    (ofRat q).toRat? = some (roundBinary q) := by
  have hsmall : |roundBinary q| < bound := abs_roundBinary_lt (by norm_num) h
  unfold ofRat
  dsimp only
  rw [ratAbs_eq_abs, if_neg (not_le.mpr hsmall)]
  split_ifs with hzero
  · rw [toRat?_negativeZero, hzero.1]
  · rfl

theorem ofRat_of_nonneg {q : Rat} (h : 0 ≤ q) (hlt : q < twoPow 1023) :
    ofRat q = .finite (roundBinary q) := by
  have hexact : |q| < twoPow 1023 := by rwa [abs_of_nonneg h]
  have hsmall : |roundBinary q| < bound := abs_roundBinary_lt (by norm_num) hexact
  unfold ofRat
  dsimp only
  rw [ratAbs_eq_abs, if_neg (not_le.mpr hsmall), if_neg fun hzero => not_lt.mpr h hzero.2]

/-- A number of moderate size is no infinity once it is rounded. -/
theorem toRat?_ofRat {q : Rat} (h : |q| < 2 ^ 32) :
    (ofRat q).toRat? = some (roundBinary q) :=
  toRat?_ofRat_of_lt (((abs_lt_twoPow_iff 32).mpr h).trans_le (twoPow_le_twoPow (by norm_num)))

theorem ofInt_of_lt {n : Int} (h : |n| < 2 ^ 61) : ofInt n = .ok (.finite (roundBinary n)) := by
  have hbound := ofInt?_isSome_iff.mp (ofInt?_isSome_of_lt h)
  rw [ofInt_eq_ok_iff, ofInt?, ratAbs_eq_abs, if_neg (not_le.mpr hbound)]

theorem ceil?_of_toRat? {x : Binary64} {q : Rat} (h : x.toRat? = some q) :
    x.ceil? = .ok q.ceil := by
  cases x with
  | finite r =>
      cases h
      rfl
  | negativeZero =>
      cases h
      rfl
  | infinite s => cases h
  | nan => cases h

theorem toInt?_of_toRat? {x : Binary64} {q : Rat} (h : x.toRat? = some q) :
    x.toInt? = .ok (roundToward q) := by
  cases x with
  | finite r =>
      cases h
      rfl
  | negativeZero =>
      cases h
      rfl
  | infinite s => cases h
  | nan => cases h

theorem toRat?_sub_of_lt {x y : Binary64} {a b : Rat} (hx : x.toRat? = some a)
    (hy : y.toRat? = some b) (h : |a - b| < twoPow 1023) :
    (x.sub y).toRat? = some (roundBinary (a - b)) := by
  unfold sub
  rw [hx, hy]
  exact toRat?_ofRat_of_lt h

theorem toRat?_sub {x y : Binary64} {a b : Rat} (hx : x.toRat? = some a)
    (hy : y.toRat? = some b) (h : |a - b| < 2 ^ 32) :
    (x.sub y).toRat? = some (roundBinary (a - b)) :=
  toRat?_sub_of_lt hx hy
    (((abs_lt_twoPow_iff 32).mpr h).trans_le (twoPow_le_twoPow (by norm_num)))

end Binary64

end RateLimit.Number
