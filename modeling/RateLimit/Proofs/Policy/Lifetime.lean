import RateLimit.Policy
import RateLimit.Proofs.Number.Rounding
import RateLimit.Store.Window

/-!
# Keys outlive their windows

The time to live of a key is the window and a minute in whole seconds, taken from a
machine number. The machine number is less than the exact length by at most the
hundred and twenty-eighth part of a second, so that at least 59 seconds of the minute
are left: `windowNs_add_le_keyTtl`. Nor is it rounded beyond the next whole second, and
up to `2 ^ 34` seconds it is never rounded down to a whole second: `keyTtl_bounds`.
-/

namespace RateLimit

open Number (roundBinary twoPow twoPow_natCast abs_sub_roundBinary_le_of_lt ceil_roundBinary_le)

namespace Span

theorem abs_div_lt_twoPow {n : Int} {e : Nat} (h : |n| < 2 ^ e * 1000000) :
    |(n / 1000000 : Rat)| < twoPow e := by
  have hcast : |(n : Rat)| < 2 ^ e * 1000000 := by
    rw [← Int.cast_abs]
    exact_mod_cast h
  rw [twoPow_natCast, abs_div, abs_of_pos (show (0 : Rat) < 1000000 by norm_num),
    div_lt_iff₀ (by norm_num)]
  exact_mod_cast hcast

/-- A span in seconds is exact up to the hundred and twenty-eighth part of a second. -/
theorem abs_sub_seconds_le (s : Span) :
    |(s.microseconds / 1000000 : Rat) - s.seconds| ≤ 1 / 128 := by
  have hspan : |s.microseconds| < 2 ^ 47 * 1000000 := by
    have h := s.isSpan
    unfold IsSpan dayLimit dayMicroseconds at h
    rw [abs_lt]
    constructor <;> omega
  have hbound := abs_sub_roundBinary_le_of_lt (abs_div_lt_twoPow hspan)
  have hhalf : twoPow (max (((47 : Nat) : Int) - 53) (-1074)) / 2 = 1 / 128 := by
    norm_num [twoPow]
  rwa [hhalf] at hbound

/-- The least number of whole seconds that a number of microseconds fits in. -/
theorem isLeast_ceil (n : Int) : IsLeast {m : Int | n ≤ m * 1000000} (n / 1000000 : Rat).ceil := by
  constructor
  · have hle : (n / 1000000 : Rat) ≤ (n / 1000000 : Rat).ceil := Rat.le_ceil
    rw [div_le_iff₀ (by norm_num)] at hle
    exact_mod_cast hle
  · intro m hm
    rw [Rat.ceil_le_iff, div_le_iff₀ (by norm_num)]
    exact_mod_cast (show n ≤ m * 1000000 from hm)

section Positive

variable {s : Span} (hpos : 0 < s.microseconds)

include hpos

/-- A span is not rounded beyond the next whole second. -/
theorem ceil_seconds_le : s.seconds.ceil ≤ (s.microseconds / 1000000 : Rat).ceil := by
  have hspan : |s.microseconds| < 2 ^ 53 * 1000000 := by
    have h := s.isSpan
    unfold IsSpan dayLimit dayMicroseconds at h
    rw [abs_lt]
    constructor <;> omega
  refine ceil_roundBinary_le ?_ (abs_lt.mp (abs_div_lt_twoPow hspan)).2
  exact div_pos (by exact_mod_cast hpos) (by norm_num)

/-- Half the distance of the machine numbers below `2 ^ 34` is less than a microsecond, so a
span that is longer than a number of whole seconds is so in machine numbers, too. -/
theorem ceil_seconds_eq (hlt : s.microseconds < 2 ^ 34 * 1000000) :
    s.seconds.ceil = (s.microseconds / 1000000 : Rat).ceil := by
  refine le_antisymm (ceil_seconds_le hpos) ?_
  have hsmall : |s.microseconds| < 2 ^ 34 * 1000000 := by rwa [abs_of_pos hpos]
  have hround := abs_sub_roundBinary_le_of_lt (abs_div_lt_twoPow hsmall)
  have hhalf : twoPow (max (((34 : Nat) : Int) - 53) (-1074)) / 2 = 1 / 2 ^ 20 := by
    norm_num [twoPow]
  rw [hhalf] at hround
  have hnear : (s.microseconds / 1000000 : Rat) - s.seconds ≤ 1 / 2 ^ 20 := (abs_le.mp hround).2
  by_contra hceil
  -- The whole second that the machine number fits in is one that the span does not fit in.
  have hlonger : s.seconds.ceil * 1000000 + 1 ≤ s.microseconds := by
    by_contra hfits
    exact hceil ((isLeast_ceil s.microseconds).2 (show s.microseconds ≤ _ by omega))
  have hcast : (s.seconds.ceil * 1000000 + 1 : Rat) ≤ s.microseconds := by
    exact_mod_cast hlonger
  have hle : s.seconds ≤ s.seconds.ceil := Rat.le_ceil
  rw [div_sub' (by norm_num), div_le_iff₀ (by norm_num)] at hnear
  linarith

end Positive

end Span

namespace Policy

theorem keyTtl?_eq_ok_iff {p : Policy} {ttl : Int} :
    p.keyTtl? = .ok ttl ↔
      ∃ s : Span, s.microseconds = p.window.microseconds + 60000000 ∧ s.seconds.ceil = ttl := by
  have hadd : ∀ s : Span, p.window.add? Span.minute = .ok s ↔
      s.microseconds = p.window.microseconds + 60000000 :=
    fun s => Span.ofMicroseconds?_eq_ok_iff
  unfold keyTtl?
  cases h : p.window.add? Span.minute with
  | error e =>
      simp only [Except.map, reduceCtorEq, false_iff]
      rintro ⟨s, hs, -⟩
      rw [(hadd s).mpr hs] at h
      cases h
  | ok s =>
      simp only [Except.map, Except.ok.injEq]
      constructor
      · intro hceil
        exact ⟨s, (hadd s).mp h, hceil⟩
      · rintro ⟨t, ht, hceil⟩
        rw [(hadd t).mpr ht] at h
        cases h
        exact hceil

/-- A key is kept for at least 59 seconds longer than its window. -/
theorem windowNs_add_le_keyTtl {p : Policy} {ttl : Int} (h : p.keyTtl? = .ok ttl) :
    p.windowNs + 59 * Action.second ≤ ttl * Action.second := by
  obtain ⟨s, hs, hceil⟩ := keyTtl?_eq_ok_iff.mp h
  have hclose := abs_le.mp s.abs_sub_seconds_le
  have hle : s.seconds ≤ ttl := by
    rw [← hceil]
    exact Rat.le_ceil
  have hrat : (s.microseconds : Rat) ≤ ttl * 1000000 + 10000 := by linarith
  have hint : s.microseconds ≤ ttl * 1000000 + 10000 := by exact_mod_cast hrat
  unfold windowNs Span.nanoseconds Action.second
  omega

/-- If a minute can be added to the window of a policy, a key has a time to live. It is longer
than the window, by less than 61 seconds, and below `2 ^ 34` seconds it is the least whole
number of seconds that the window and the minute fit in. -/
theorem keyTtl_bounds {p : Policy}
    (h : IsSpan (p.window.microseconds + Span.minute.microseconds)) :
    ∃ ttl, p.keyTtl? = .ok ttl ∧ p.windowNs = 1000 * p.window.microseconds ∧
      p.windowNs < ttl * 10 ^ 9 ∧ ttl * 10 ^ 9 < p.windowNs + 61 * 10 ^ 9 ∧
      (p.window.microseconds + Span.minute.microseconds < 2 ^ 34 * 1000000 →
        IsLeast {n : Int | p.window.microseconds + Span.minute.microseconds ≤ n * 1000000} ttl) := by
  let s : Span := ⟨p.window.microseconds + Span.minute.microseconds, h⟩
  have httl : p.keyTtl? = .ok s.seconds.ceil := keyTtl?_eq_ok_iff.mpr ⟨s, rfl, rfl⟩
  have hminute : Span.minute.microseconds = 60000000 := rfl
  have hwindow := p.window_pos
  have hpos : 0 < s.microseconds := by
    change 0 < p.window.microseconds + Span.minute.microseconds
    omega
  have hscale : p.windowNs = 1000 * p.window.microseconds := mul_comm _ _
  have hleast := Span.isLeast_ceil s.microseconds
  refine ⟨s.seconds.ceil, httl, hscale, ?_, ?_, fun hlt => ?_⟩
  · have hgrace := windowNs_add_le_keyTtl httl
    unfold Action.second at hgrace
    omega
  · -- A second less than the least number of seconds is too short for the window and the minute.
    have hshort : ¬ s.microseconds ≤ ((s.microseconds / 1000000 : Rat).ceil - 1) * 1000000 :=
      fun hfits => absurd (hleast.2 hfits) (by omega)
    have hle := Span.ceil_seconds_le hpos
    change ¬ p.window.microseconds + Span.minute.microseconds ≤ _ at hshort
    omega
  · rw [Span.ceil_seconds_eq hpos hlt]
    exact hleast

/-- A policy whose window and minute are a microsecond longer than `2 ^ 33 - 1` seconds. -/
def longPolicy : Policy where
  name := "archive"
  maxRequests := 1
  window := ⟨(2 ^ 33 - 61) * 1000000 + 1, by decide⟩
  keyPrefix := "ratelimit:archive:"

theorem longPolicy_keyTtl :
    IsSpan (longPolicy.window.microseconds + Span.minute.microseconds) ∧
      longPolicy.keyTtl? = .ok (2 ^ 33) ∧
      longPolicy.windowNs < 2 ^ 33 * 10 ^ 9 ∧ 2 ^ 33 * 10 ^ 9 < longPolicy.windowNs + 61 * 10 ^ 9 ∧
      IsLeast {n : Int | (2 ^ 33 - 1) * 1000000 + 1 ≤ n * 1000000} (2 ^ 33) := by
  have hspan : IsSpan (longPolicy.window.microseconds + Span.minute.microseconds) := by decide
  have hvalue : longPolicy.keyTtl? = .ok (2 ^ 33) := by decide +kernel
  obtain ⟨ttl, httl, -, hlower, hupper, hleast⟩ := keyTtl_bounds hspan
  cases hvalue.symm.trans httl
  exact ⟨hspan, hvalue, hlower, hupper, hleast (by decide)⟩

/-- Beyond `2 ^ 34` seconds a microsecond may be lost. -/
example : (Span.seconds ⟨2 ^ 34 * 1000000 + 1, by decide⟩).ceil = 2 ^ 34 := by decide +kernel

end Policy

end RateLimit
