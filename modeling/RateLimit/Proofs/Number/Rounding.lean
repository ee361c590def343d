import Mathlib.Data.Rat.Floor
import Mathlib.Tactic
import RateLimit.Number.Rounding

/-!
# Rounding keeps the order

`roundEven` and `roundBinary` are monotone and change a number by at most half a
step of the grid. An integer is its own `roundEven`, so a point of the grid of `q`
that lies above `q` lies above `roundBinary q` too, `roundBinary_le_of_le`. Two
numbers on different grids are separated by a power of two, which is on both, and
this is how `roundBinary_mono` is proved.
-/

namespace RateLimit.Number

/-- A half goes to the even neighbour, everything else to the nearest. -/
theorem roundEven_spec (q : Rat) :
    |q - roundEven q| < 1 / 2 ∨ |q - roundEven q| = 1 / 2 ∧ roundEven q % 2 = 0 := by
  have hlo : (q.floor : Rat) ≤ q := Int.floor_le q
  have hhi : q < q.floor + 1 := Int.lt_floor_add_one q
  unfold roundEven
  dsimp only
  split_ifs with hlt hgt heven
  · left
    rw [abs_lt]
    constructor <;> linarith
  · left
    rw [abs_lt]
    push_cast
    constructor <;> linarith
  · right
    refine ⟨?_, heven⟩
    rw [abs_of_nonneg (by linarith)]
    linarith
  · right
    refine ⟨?_, by omega⟩
    push_cast
    rw [abs_of_nonpos (by linarith)]
    linarith

theorem abs_sub_roundEven_le (q : Rat) : |q - roundEven q| ≤ 1 / 2 := by
  rcases roundEven_spec q with h | h
  · exact h.le
  · exact h.1.le

/-- The rule determines the integer. -/
theorem roundEven_eq_of_spec {q : Rat} {m : Int}
    (h : |q - m| < 1 / 2 ∨ |q - m| = 1 / 2 ∧ m % 2 = 0) : roundEven q = m := by
  have hm : |q - m| ≤ 1 / 2 := by
    rcases h with h | h
    · exact h.le
    · exact h.1.le
  have hq := abs_sub_roundEven_le q
  rw [abs_le] at hm hq
  have hnear : |((roundEven q - m : Int) : Rat)| ≤ 1 := by
    push_cast
    rw [abs_le]
    constructor <;> linarith
  have hstep : |roundEven q - m| ≤ 1 := by exact_mod_cast hnear
  by_contra hne
  -- Neighbours can both be at distance a half only, and then both would be even.
  have hdist : roundEven q = m + 1 ∨ roundEven q = m - 1 := by
    rw [abs_le] at hstep
    omega
  have hhalf : |q - m| = 1 / 2 ∧ |q - roundEven q| = 1 / 2 := by
    rcases hdist with hd | hd <;> rw [hd] at hq ⊢ <;> push_cast at hq ⊢
    · have : q = m + 1 / 2 := by linarith
      subst this
      constructor <;> norm_num [abs_of_nonneg]
    · have : q = m - 1 / 2 := by linarith
      subst this
      constructor <;> norm_num [abs_of_nonneg]
  have hmeven : m % 2 = 0 := by
    rcases h with h | h
    · exact absurd hhalf.1 h.ne
    · exact h.2
  have hqeven : roundEven q % 2 = 0 := by
    rcases roundEven_spec q with h | h
    · exact absurd hhalf.2 h.ne
    · exact h.2
  omega

@[simp] theorem roundEven_intCast (n : Int) : roundEven n = n :=
  roundEven_eq_of_spec (by simp)

theorem roundEven_neg (q : Rat) : roundEven (-q) = -roundEven q := by
  apply roundEven_eq_of_spec
  have hdist : |-q - ((-roundEven q : Int) : Rat)| = |q - roundEven q| := by
    push_cast
    rw [← abs_neg]
    congr 1
    ring
  rw [hdist]
  rcases roundEven_spec q with h | h
  · exact Or.inl h
  · exact Or.inr ⟨h.1, by omega⟩

theorem roundEven_mono {q r : Rat} (h : q ≤ r) : roundEven q ≤ roundEven r := by
  by_contra hlt
  have hstep : ((roundEven r + 1 : Int) : Rat) ≤ roundEven q := by
    exact_mod_cast Int.not_le.mp hlt
  have hq := abs_le.mp (abs_sub_roundEven_le q)
  have hr := abs_le.mp (abs_sub_roundEven_le r)
  push_cast at hstep
  have heq : q = r := by linarith
  exact hlt (heq ▸ le_rfl)

theorem twoPow_pos (e : Int) : 0 < twoPow e := zpow_pos two_pos e

theorem twoPow_add (a b : Int) : twoPow (a + b) = twoPow a * twoPow b :=
  zpow_add₀ two_ne_zero a b

theorem twoPow_le_twoPow {a b : Int} (h : a ≤ b) : twoPow a ≤ twoPow b :=
  zpow_le_zpow_right₀ one_le_two h

theorem twoPow_natCast (n : Nat) : twoPow n = ((2 ^ n : Nat) : Rat) := by
  unfold twoPow
  rw [zpow_natCast]
  push_cast
  rfl

/-- A power of two is an integer multiple of a smaller one. -/
theorem exists_twoPow_eq_mul {a b : Int} (h : a ≤ b) :
    ∃ m : Int, twoPow b = m * twoPow a := by
  refine ⟨((2 ^ (b - a).toNat : Nat) : Int), ?_⟩
  have hexp : ((b - a).toNat : Int) = b - a := Int.toNat_of_nonneg (by omega)
  rw [Int.cast_natCast, ← twoPow_natCast, hexp, ← twoPow_add]
  congr 1
  ring

theorem twoPow_log2_le {n : Nat} (h : n ≠ 0) : twoPow n.log2 ≤ n := by
  rw [twoPow_natCast]
  exact_mod_cast Nat.log2_self_le h

theorem lt_twoPow_log2_add_one (n : Nat) : (n : Rat) < twoPow (n.log2 + 1) := by
  have hexp : (n.log2 + 1 : Int) = ((n.log2 + 1 : Nat) : Int) := by push_cast; rfl
  rw [hexp, twoPow_natCast]
  exact_mod_cast Nat.lt_log2_self

theorem mul_den_eq_natAbs {q : Rat} (h : 0 < q) : q * q.den = q.num.natAbs := by
  have hnum : (0 : Int) ≤ q.num := (Rat.num_pos.mpr h).le
  rw [Rat.mul_den_eq_num, ← Int.cast_natCast, Int.natAbs_of_nonneg hnum]

/-- The binary order is the exponent of the leading bit. -/
theorem twoPow_binaryOrder_le {q : Rat} (h : 0 < q) : twoPow (binaryOrder q) ≤ q := by
  have hnum : q.num.natAbs ≠ 0 := by
    have := Rat.num_pos.mpr h
    omega
  have hden : (0 : Rat) < q.den := by exact_mod_cast q.den_pos
  unfold binaryOrder
  dsimp only
  split_ifs with hguess
  · exact hguess
  · refine le_of_mul_le_mul_right ?_ hden
    calc twoPow (q.num.natAbs.log2 - q.den.log2 - 1) * q.den
        ≤ twoPow (q.num.natAbs.log2 - q.den.log2 - 1) * twoPow (q.den.log2 + 1) :=
          mul_le_mul_of_nonneg_left (lt_twoPow_log2_add_one _).le (twoPow_pos _).le
      _ = twoPow q.num.natAbs.log2 := by rw [← twoPow_add]; congr 1; ring
      _ ≤ q.num.natAbs := twoPow_log2_le hnum
      _ = q * q.den := (mul_den_eq_natAbs h).symm

theorem lt_twoPow_binaryOrder_add_one {q : Rat} (h : 0 < q) :
    q < twoPow (binaryOrder q + 1) := by
  have hden : (0 : Rat) < q.den := by exact_mod_cast q.den_pos
  unfold binaryOrder
  dsimp only
  split_ifs with hguess
  · refine lt_of_mul_lt_mul_right ?_ hden.le
    calc q * q.den = q.num.natAbs := mul_den_eq_natAbs h
      _ < twoPow (q.num.natAbs.log2 + 1) := lt_twoPow_log2_add_one _
      _ = twoPow (q.num.natAbs.log2 - q.den.log2 + 1) * twoPow q.den.log2 := by
          rw [← twoPow_add]; congr 1; ring
      _ ≤ twoPow (q.num.natAbs.log2 - q.den.log2 + 1) * q.den :=
          mul_le_mul_of_nonneg_left (twoPow_log2_le q.den_pos.ne') (twoPow_pos _).le
  · rw [not_le] at hguess
    exact lt_of_lt_of_le hguess (twoPow_le_twoPow (by omega))

theorem binaryOrder_lt_of_lt {q : Rat} {e : Int} (hpos : 0 < q) (h : q < twoPow e) :
    binaryOrder q < e := by
  by_contra hle
  have := twoPow_le_twoPow (Int.not_lt.mp hle)
  have := twoPow_binaryOrder_le hpos
  linarith

theorem binaryOrder_mono {q r : Rat} (hpos : 0 < q) (h : q ≤ r) :
    binaryOrder q ≤ binaryOrder r := by
  have hr := lt_twoPow_binaryOrder_add_one (lt_of_lt_of_le hpos h)
  have := binaryOrder_lt_of_lt hpos (lt_of_le_of_lt h hr)
  omega

/-- The two spellings of the absolute value. -/
theorem ratAbs_eq_abs (q : Rat) : q.abs = |q| := by
  rcases le_total 0 q with h | h
  · rw [Rat.abs_of_nonneg h, abs_of_nonneg h]
  · rw [Rat.abs_of_nonpos h, abs_of_nonpos h]

theorem spacing_pos (q : Rat) : 0 < spacing q := twoPow_pos _

theorem spacing_neg (q : Rat) : spacing (-q) = spacing q := by
  unfold spacing
  rw [Rat.abs_neg]

theorem spacing_of_pos {q : Rat} (h : 0 < q) :
    spacing q = twoPow (max (binaryOrder q - 52) (-1074)) := by
  unfold spacing
  rw [Rat.abs_of_nonneg h.le]

theorem roundBinary_eq (q : Rat) : roundBinary q = roundEven (q / spacing q) * spacing q := by
  unfold roundBinary
  split_ifs with h
  · subst h
    have hzero : roundEven 0 = 0 := by exact_mod_cast roundEven_intCast 0
    rw [zero_div, hzero]
    simp
  · rfl

theorem roundBinary_neg (q : Rat) : roundBinary (-q) = -roundBinary q := by
  rw [roundBinary_eq, roundBinary_eq, spacing_neg, neg_div, roundEven_neg]
  push_cast
  ring

/-- A number is rounded by at most half the distance of its neighbours. -/
theorem abs_sub_roundBinary_le (q : Rat) : |q - roundBinary q| ≤ spacing q / 2 := by
  have hpos := spacing_pos q
  have hround := abs_sub_roundEven_le (q / spacing q)
  have hscale : q - roundBinary q =
      (q / spacing q - roundEven (q / spacing q)) * spacing q := by
    rw [roundBinary_eq, sub_mul, div_mul_cancel₀ q hpos.ne']
  rw [hscale, abs_mul, abs_of_pos hpos]
  calc |q / spacing q - roundEven (q / spacing q)| * spacing q
      ≤ 1 / 2 * spacing q := mul_le_mul_of_nonneg_right hround hpos.le
    _ = spacing q / 2 := by ring

/-- The rounding error below a power of two. -/
theorem abs_sub_roundBinary_le_of_lt {q : Rat} {e : Int} (h : |q| < twoPow e) :
    |q - roundBinary q| ≤ twoPow (max (e - 53) (-1074)) / 2 := by
  by_cases hq : q = 0
  · subst hq
    have := twoPow_pos (max (e - 53) (-1074))
    simp only [roundBinary_zero, sub_zero, abs_zero]
    linarith
  · have horder : binaryOrder |q| < e := binaryOrder_lt_of_lt (abs_pos.mpr hq) h
    have hspacing : spacing q ≤ twoPow (max (e - 53) (-1074)) := by
      unfold spacing
      rw [ratAbs_eq_abs]
      exact twoPow_le_twoPow (by omega)
    have := abs_sub_roundBinary_le q
    linarith

/-- A point of the grid above a number is above its rounding. -/
theorem roundBinary_le_of_le {q : Rat} {m : Int} (h : q ≤ m * spacing q) :
    roundBinary q ≤ m * spacing q := by
  have hpos := spacing_pos q
  have hscaled : q / spacing q ≤ m := (div_le_iff₀ hpos).mpr h
  have hround := roundEven_mono hscaled
  rw [roundEven_intCast] at hround
  rw [roundBinary_eq]
  exact mul_le_mul_of_nonneg_right (by exact_mod_cast hround) hpos.le

/-- A point of the grid below a number is below its rounding. -/
theorem le_roundBinary_of_le {q : Rat} {m : Int} (h : m * spacing q ≤ q) :
    m * spacing q ≤ roundBinary q := by
  have hpos := spacing_pos q
  have hscaled : (m : Rat) ≤ q / spacing q := (le_div_iff₀ hpos).mpr h
  have hround := roundEven_mono hscaled
  rw [roundEven_intCast] at hround
  rw [roundBinary_eq]
  exact mul_le_mul_of_nonneg_right (by exact_mod_cast hround) hpos.le

/-- A point of a coarser grid is on the grid of a number. -/
theorem exists_eq_mul_spacing {q : Rat} {e : Int} (hpos : 0 < q) (hlt : q < twoPow e)
    (he : -1021 ≤ e) (m : Int) : ∃ k : Int, (m : Rat) * twoPow (e - 53) = k * spacing q := by
  have horder := binaryOrder_lt_of_lt hpos hlt
  obtain ⟨k, hk⟩ := exists_twoPow_eq_mul
    (show max (binaryOrder q - 52) (-1074) ≤ e - 53 by omega)
  rw [← spacing_of_pos hpos] at hk
  refine ⟨m * k, ?_⟩
  rw [hk]
  push_cast
  ring

/-- A point of a coarser grid below a number is below its rounding. -/
theorem le_roundBinary_of_coarse {q : Rat} {m e : Int} (hpos : 0 < q) (hlt : q < twoPow e)
    (he : -1021 ≤ e) (h : m * twoPow (e - 53) ≤ q) : m * twoPow (e - 53) ≤ roundBinary q := by
  obtain ⟨k, hk⟩ := exists_eq_mul_spacing hpos hlt he m
  rw [hk] at h ⊢
  exact le_roundBinary_of_le h

/-- A point of a coarser grid above a number is above its rounding. -/
theorem roundBinary_le_of_coarse {q : Rat} {m e : Int} (hpos : 0 < q) (hlt : q < twoPow e)
    (he : -1021 ≤ e) (h : q ≤ m * twoPow (e - 53)) : roundBinary q ≤ m * twoPow (e - 53) := by
  obtain ⟨k, hk⟩ := exists_eq_mul_spacing hpos hlt he m
  rw [hk] at h ⊢
  exact roundBinary_le_of_le h

/-- Rounding does not lift a number above the next integer. -/
theorem ceil_roundBinary_le {q : Rat} (hpos : 0 < q) (hlt : q < twoPow 53) :
    (roundBinary q).ceil ≤ q.ceil := by
  have hone : twoPow (53 - 53) = 1 := by norm_num [twoPow]
  have hle : q ≤ q.ceil * twoPow (53 - 53) := by
    rw [hone, mul_one]
    exact Rat.le_ceil
  have hround := roundBinary_le_of_coarse hpos hlt (by norm_num) hle
  rw [hone, mul_one] at hround
  exact Rat.ceil_le_iff.mpr hround

theorem roundBinary_nonneg {q : Rat} (h : 0 ≤ q) : 0 ≤ roundBinary q := by
  have := le_roundBinary_of_le (q := q) (m := 0) (by simpa using h)
  simpa using this

theorem roundBinary_mono_of_pos {q r : Rat} (hpos : 0 < q) (h : q ≤ r) :
    roundBinary q ≤ roundBinary r := by
  have hr : 0 < r := lt_of_lt_of_le hpos h
  have horder := binaryOrder_mono hpos h
  by_cases hgrid : max (binaryOrder q - 52) (-1074) = max (binaryOrder r - 52) (-1074)
  · have hspacing : spacing q = spacing r := by
      rw [spacing_of_pos hpos, spacing_of_pos hr, hgrid]
    have hround : roundEven (q / spacing r) ≤ roundEven (r / spacing r) :=
      roundEven_mono (div_le_div_of_nonneg_right h (spacing_pos r).le)
    rw [roundBinary_eq, roundBinary_eq, hspacing]
    exact mul_le_mul_of_nonneg_right (by exact_mod_cast hround) (spacing_pos r).le
  · -- The leading power of two of `r` is on both grids and separates the numbers.
    obtain ⟨m, hm⟩ := exists_twoPow_eq_mul
      (show max (binaryOrder q - 52) (-1074) ≤ binaryOrder r by omega)
    obtain ⟨n, hn⟩ := exists_twoPow_eq_mul
      (show max (binaryOrder r - 52) (-1074) ≤ binaryOrder r by omega)
    rw [← spacing_of_pos hpos] at hm
    rw [← spacing_of_pos hr] at hn
    have hbelow : q ≤ m * spacing q := by
      rw [← hm]
      exact (lt_twoPow_binaryOrder_add_one hpos).le.trans (twoPow_le_twoPow (by omega))
    have habove : n * spacing r ≤ r := by
      rw [← hn]
      exact twoPow_binaryOrder_le hr
    calc roundBinary q ≤ m * spacing q := roundBinary_le_of_le hbelow
      _ = n * spacing r := by rw [← hm, ← hn]
      _ ≤ roundBinary r := le_roundBinary_of_le habove

/-- Rounding keeps the order. -/
theorem roundBinary_mono {q r : Rat} (h : q ≤ r) : roundBinary q ≤ roundBinary r := by
  rcases lt_or_ge 0 q with hq | hq
  · exact roundBinary_mono_of_pos hq h
  rcases lt_or_ge r 0 with hr | hr
  · have hneg := roundBinary_mono_of_pos (neg_pos.mpr hr) (neg_le_neg h)
    rw [roundBinary_neg, roundBinary_neg] at hneg
    exact neg_le_neg_iff.mp hneg
  · have hlow := roundBinary_nonneg (neg_nonneg.mpr hq)
    rw [roundBinary_neg] at hlow
    have hhigh := roundBinary_nonneg hr
    linarith

end RateLimit.Number
