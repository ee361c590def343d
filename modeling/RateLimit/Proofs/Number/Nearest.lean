import RateLimit.Number.Binary64
import RateLimit.Proofs.Number.Rounding

/-!
# Integers as machine numbers

What rounding does to scores. An integer is rounded to an integer, `roundBinary_intCast`, so
`nearest` loses nothing. It keeps the order, and below `2 ^ 61` it moves an integer by at
most 128, half the distance of the machine numbers there. Integers that are more than 256
apart therefore stay apart, `nearest_lt_nearest`.
-/

namespace RateLimit.Number.Binary64

/-- An integer is rounded to an integer: either it is on the grid, or the steps of the grid
are integers. -/
theorem exists_roundBinary_intCast (n : Int) : ∃ m : Int, roundBinary n = m := by
  rcases le_total 0 (max (binaryOrder (n : Rat).abs - 52) (-1074)) with h | h
  · obtain ⟨m, hm⟩ := exists_twoPow_eq_mul h
    refine ⟨roundEven (n / spacing n) * m, ?_⟩
    have hone : twoPow 0 = 1 := zpow_zero 2
    rw [roundBinary_eq, spacing, hm, hone]
    push_cast
    ring
  · obtain ⟨m, hm⟩ := exists_twoPow_eq_mul h
    refine ⟨n, ?_⟩
    have hone : (1 : Rat) = m * spacing n := (zpow_zero 2).symm.trans hm
    have hgrid : (n : Rat) = (n * m : Int) * spacing n := by
      push_cast
      rw [mul_assoc, ← hone, mul_one]
    exact le_antisymm ((roundBinary_le_of_le hgrid.le).trans hgrid.ge)
      (hgrid.le.trans (le_roundBinary_of_le hgrid.ge))

theorem roundBinary_intCast (n : Int) : roundBinary n = nearest n := by
  obtain ⟨m, hm⟩ := exists_roundBinary_intCast n
  rw [nearest, hm, Rat.floor_intCast]

/-- An integer that is not too large is held as the nearest machine number. -/
theorem ofInt?_eq_some {n : Int} (h : (ofInt? n).isSome = true) :
    ofInt? n = some (.finite (nearest n)) := by
  rw [← roundBinary_intCast]
  unfold ofInt? at h ⊢
  split_ifs at h ⊢
  · cases h
  · rfl

theorem nearest_mono {m n : Int} (h : m ≤ n) : nearest m ≤ nearest n := by
  have hround : roundBinary m ≤ roundBinary n := roundBinary_mono (by exact_mod_cast h)
  exact Int.floor_mono hround

theorem lt_of_nearest_lt_nearest {m n : Int} (h : nearest m < nearest n) : m < n := by
  by_contra hle
  have := nearest_mono (Int.not_lt.mp hle)
  omega

theorem abs_sub_roundBinary_le_128 {n : Int} (h : |n| < 2 ^ 61) :
    |(n : Rat) - roundBinary n| ≤ 128 := by
  have hlt : |(n : Rat)| < twoPow 61 := by
    have hpow : twoPow 61 = ((2 ^ 61 : Int) : Rat) := by
      rw [show (61 : Int) = ((61 : Nat) : Int) from rfl, twoPow_natCast]
      norm_num
    rw [hpow, ← Int.cast_abs]
    exact_mod_cast h
  have hbound := abs_sub_roundBinary_le_of_lt hlt
  have hhalf : twoPow (max (61 - 53) (-1074)) / 2 = 128 := by
    rw [show max (61 - 53 : Int) (-1074) = ((8 : Nat) : Int) from rfl, twoPow_natCast]
    norm_num
  rwa [hhalf] at hbound

/-- Below `2 ^ 61` the nearest machine number is at most 128 away. -/
theorem abs_nearest_sub_le {n : Int} (h : |n| < 2 ^ 61) : |nearest n - n| ≤ 128 := by
  have hbound := abs_le.mp (abs_sub_roundBinary_le_128 h)
  have hlow : n - 128 ≤ nearest n := by
    apply Rat.le_floor_iff.mpr
    push_cast
    linarith
  have hhigh : (nearest n : Rat) ≤ ((n + 128 : Int) : Rat) := by
    push_cast
    have : (nearest n : Rat) ≤ roundBinary n := Int.floor_le _
    linarith
  have hhigh : nearest n ≤ n + 128 := by exact_mod_cast hhigh
  rw [abs_le]
  constructor <;> omega

/-- Integers that are far enough apart stay apart. -/
theorem nearest_lt_nearest {m n : Int} (hm : |m| < 2 ^ 61) (hn : |n| < 2 ^ 61)
    (h : m + 256 < n) : nearest m < nearest n := by
  have hmerr := abs_le.mp (abs_nearest_sub_le hm)
  have hnerr := abs_le.mp (abs_nearest_sub_le hn)
  omega

theorem ofInt_eq_ok_iff {n : Int} {x : Binary64} : ofInt n = .ok x ↔ ofInt? n = some x := by
  unfold ofInt
  cases ofInt? n <;> simp

theorem ofInt_eq_error_iff {n : Int} {e : ConversionError} :
    ofInt n = .error e ↔ ofInt? n = none ∧ e = .integerTooLarge := by
  unfold ofInt
  cases ofInt? n <;> simp [eq_comm]

theorem ofInt?_isSome_iff {n : Int} :
    (ofInt? n).isSome = true ↔ |roundBinary n| < bound := by
  rw [Option.isSome_iff_ne_none, Ne, ofInt?_eq_none_iff, ratAbs_eq_abs, not_le]

/-- What lies between numbers that are not too large is not too large. -/
theorem ofInt?_isSome_of_between {l m u : Int} (hlm : l ≤ m) (hmu : m ≤ u)
    (hl : (ofInt? l).isSome = true) (hu : (ofInt? u).isSome = true) :
    (ofInt? m).isSome = true := by
  rw [ofInt?_isSome_iff] at hl hu ⊢
  have hlow : roundBinary l ≤ roundBinary m := roundBinary_mono (by exact_mod_cast hlm)
  have hhigh : roundBinary m ≤ roundBinary u := roundBinary_mono (by exact_mod_cast hmu)
  rw [abs_lt] at hl hu ⊢
  constructor <;> linarith

theorem ofInt?_isSome_of_lt {n : Int} (h : |n| < 2 ^ 61) : (ofInt? n).isSome = true := by
  rw [ofInt?_isSome_iff]
  have hn : |(n : Rat)| < 2 ^ 61 := by
    rw [← Int.cast_abs]
    exact_mod_cast h
  have hbound : (2 : Rat) ^ 62 ≤ bound := by
    have := twoPow_le_twoPow (show (62 : Int) ≤ 1024 by norm_num)
    rwa [show (62 : Int) = ((62 : Nat) : Int) from rfl, twoPow_natCast,
      Nat.cast_pow] at this
  have hround := abs_le.mp (abs_sub_roundBinary_le_128 h)
  rw [abs_lt] at hn ⊢
  constructor <;> linarith

end RateLimit.Number.Binary64
