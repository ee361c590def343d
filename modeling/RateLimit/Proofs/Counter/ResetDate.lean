import RateLimit.Proofs.Counter.Afterwards
import RateLimit.Proofs.Number.Error
import RateLimit.Proofs.Time.Calendar

/-!
# The date of a reset

When a window resets is told in seconds, as a machine number, and shown as a date after it is
rounded to microseconds, `resetMicroseconds`. In the years that have a date all these roundings
move the end of the window by less than fifty microseconds, `abs_resetMicroseconds_sub_le`; and
they do not move the end of a window over a whole second that is a machine number,
`mul_le_resetMicroseconds`. So a date is shown as far as local time has dates, and from there on
there is none. In universal time this is the end of the year 9999.
-/

namespace RateLimit

open Number (Binary64 roundBinary roundEven roundToward twoPow)

section Microseconds

variable {q : Rat} (h : 0 ≤ q)

include h

/-- The microseconds of a number of seconds: those of its whole seconds, and those of the rest,
which are rounded for themselves. -/
theorem microsecondsOfSeconds_eq :
    microsecondsOfSeconds q =
      roundEven (q.floor * 1000000 + roundBinary ((q - q.floor) * 1000000)) := by
  unfold microsecondsOfSeconds roundToward
  rw [if_neg (not_lt.mpr h)]

/-- Whole seconds that have passed are not rounded away. -/
theorem mul_le_microsecondsOfSeconds {k : Int} (hk : k ≤ q) :
    k * 1000000 ≤ microsecondsOfSeconds q := by
  have hwhole : (k : Rat) ≤ q.floor := by exact_mod_cast Rat.le_floor_iff.mpr hk
  have hrest : 0 ≤ roundBinary ((q - q.floor) * 1000000) :=
    Number.roundBinary_nonneg (mul_nonneg (sub_nonneg.mpr (Rat.floor_le q)) (by norm_num))
  have hround : roundEven ((k * 1000000 : Int) : Rat) ≤
      roundEven (q.floor * 1000000 + roundBinary ((q - q.floor) * 1000000)) := by
    refine Number.roundEven_mono ?_
    push_cast
    linarith
  rwa [Number.roundEven_intCast, ← microsecondsOfSeconds_eq h] at hround

/-- Both roundings cost a microsecond at most. -/
theorem abs_microsecondsOfSeconds_sub_le :
    |(microsecondsOfSeconds q : Rat) - q * 1000000| ≤ 1 := by
  have hlow : (q.floor : Rat) ≤ q := Rat.floor_le q
  have hhigh : q < q.floor + 1 := by exact_mod_cast Rat.lt_floor_add_one q
  have hrest : |(q - q.floor) * 1000000| < twoPow 20 := by
    rw [abs_of_nonneg (by nlinarith)]
    norm_num [twoPow]
    linarith
  have hfine := abs_le.mp (Number.abs_sub_roundBinary_le_of_lt hrest)
  have hunit : twoPow (max (20 - 53) (-1074)) / 2 ≤ 1 / 2 := by norm_num [twoPow]
  have hwhole := abs_le.mp (Number.abs_sub_roundEven_le
    (q.floor * 1000000 + roundBinary ((q - q.floor) * 1000000)))
  rw [microsecondsOfSeconds_eq h, abs_le]
  constructor <;> linarith

end Microseconds

namespace Counter

variable {p : Policy} {reading : Int}

/-- The seconds at which the window of a reading resets. -/
def resetSeconds (p : Policy) (reading : Int) : Rat :=
  roundBinary (roundBinary (reading + p.windowNs : Int) / (1000000000 : Nat))

/-- The microseconds of the date at which the window of a reading resets. -/
def resetMicroseconds (p : Policy) (reading : Int) : Int :=
  microsecondsOfSeconds (resetSeconds p reading)

/-- The window of a reading ends at a time that has a local date. -/
def IsDatedReset (zone : Zone) (p : Policy) (reading : Int) : Prop :=
  zone.HasDate (resetMicroseconds p reading / 1000000)

section Reading

variable (p) (hnonneg : 0 ≤ reading) (hlt : reading < 2 ^ 61)

include hnonneg

theorem roundBinary_end_nonneg : 0 ≤ roundBinary (reading + p.windowNs : Int) := by
  have hpos := p.windowNs_pos
  refine Number.roundBinary_nonneg ?_
  exact_mod_cast (by omega : 0 ≤ reading + p.windowNs)

theorem resetSeconds_nonneg : 0 ≤ resetSeconds p reading :=
  Number.roundBinary_nonneg (div_nonneg (roundBinary_end_nonneg p hnonneg) (by norm_num))

/-- A number of seconds is not rounded away that is a machine number, in nanoseconds as in
seconds. -/
theorem mul_le_resetMicroseconds {k : Int}
    (hexact : roundBinary (k * 1000000000 : Int) = (k * 1000000000 : Int))
    (hexact' : roundBinary k = k) (hle : k * 1000000000 ≤ reading + p.windowNs) :
    k * 1000000 ≤ resetMicroseconds p reading := by
  have hinteger : roundBinary (k * 1000000000 : Int) ≤
      roundBinary (reading + p.windowNs : Int) :=
    Number.roundBinary_mono (by exact_mod_cast hle)
  have hquotient : (k : Rat) ≤
      roundBinary (reading + p.windowNs : Int) / (1000000000 : Nat) := by
    rw [le_div_iff₀ (by norm_num)]
    refine le_trans ?_ hinteger
    rw [hexact]
    norm_num
  have hseconds : roundBinary k ≤ resetSeconds p reading :=
    Number.roundBinary_mono hquotient
  rw [hexact'] at hseconds
  exact mul_le_microsecondsOfSeconds (resetSeconds_nonneg p hnonneg) hseconds

/-- The integer is off by 2 ^ 14 nanoseconds, the quotient by 10 ^ 9 / 2 ^ 15 < 30518, and the
microseconds by a thousand. -/
theorem abs_resetMicroseconds_sub_le (hyears : reading + p.windowNs < 2 ^ 68) :
    |resetMicroseconds p reading * 1000 - (reading + p.windowNs)| < 50000 := by
  have hpos := p.windowNs_pos
  have hmicro := abs_le.mp (abs_microsecondsOfSeconds_sub_le (resetSeconds_nonneg p hnonneg))
  have hround := roundBinary_end_nonneg p hnonneg
  unfold resetMicroseconds
  unfold resetSeconds at hmicro ⊢
  generalize hn : reading + p.windowNs = n at *
  have hlarge : |(n : Rat)| < twoPow 68 := by
    rw [← Int.cast_abs, abs_of_nonneg (by omega), show (68 : Int) = ((68 : Nat) : Int) from rfl,
      Number.twoPow_natCast]
    exact_mod_cast hyears
  have hunit : twoPow (max (68 - 53) (-1074)) / 2 = 2 ^ 14 := by norm_num [twoPow]
  have hinteger := Number.abs_sub_roundBinary_le_of_lt hlarge
  rw [hunit, abs_le] at hinteger
  generalize roundBinary n = m at *
  have hquotient : |m / (1000000000 : Nat)| < twoPow 39 := by
    rw [abs_of_nonneg (by positivity), div_lt_iff₀ (by norm_num)]
    norm_num [twoPow] at hlarge ⊢
    have := (abs_lt.mp hlarge).2
    linarith
  have hunit' : twoPow (max (39 - 53) (-1074)) / 2 = 1 / 2 ^ 15 := by norm_num [twoPow]
  have hseconds := Number.abs_sub_roundBinary_le_of_lt hquotient
  rw [hunit', abs_le] at hseconds
  push_cast at hseconds hmicro
  have hlast : |((microsecondsOfSeconds (roundBinary (m / (1000000000 : Nat))) * 1000 - n : Int) :
      Rat)| < (50000 : Int) := by
    rw [abs_lt]
    push_cast
    constructor <;> linarith
  exact_mod_cast hlast

/-- No zone is as far behind that it still had dates after 2 ^ 38 seconds. -/
theorem IsDatedReset.lt {zone : Zone} (h : IsDatedReset zone p reading) :
    reading + p.windowNs < 2 ^ 38 * 1000000000 := by
  by_contra hle
  have hreset := mul_le_resetMicroseconds p hnonneg (k := 2 ^ 38) (by decide +kernel)
    (by decide +kernel) (not_lt.mp hle)
  have hbehind := zone.lt_offset (resetMicroseconds p reading / 1000000)
  have hnow := h.now
  unfold Zone.wall yearTenThousand at hnow
  omega

/-- A date that is shown is off by less than fifty microseconds, before its fraction is cut. -/
theorem IsDatedReset.abs_sub_lt {zone : Zone} (h : IsDatedReset zone p reading) :
    |resetMicroseconds p reading * 1000 - (reading + p.windowNs)| < 50000 :=
  abs_resetMicroseconds_sub_le p hnonneg ((h.lt p hnonneg).trans (by norm_num))

/-- Unless a window ends in the last fifty microseconds of the year 9999, the year of its end
decides whether there is a date in universal time. -/
theorem isDatedReset_universal_iff (hclear : reading + p.windowNs ≤ 253402300799999950000 ∨
    253402300800000000000 ≤ reading + p.windowNs) :
    IsDatedReset .universal p reading ↔ reading + p.windowNs < 253402300800000000000 := by
  unfold IsDatedReset
  rw [Zone.hasDate_iff fun n => (Zone.gained_universal n).ge, Zone.wall_universal]
  unfold yearTenThousand
  constructor
  · intro hdate
    by_contra hle
    have hreset := mul_le_resetMicroseconds p hnonneg (k := 253402300800) (by decide +kernel)
      (by decide +kernel) (not_lt.mp hle)
    omega
  · intro hbefore
    have hle := hclear.resolve_right (not_le.mpr hbefore)
    have hclose := (abs_lt.mp (abs_resetMicroseconds_sub_le p hnonneg (by omega))).2
    omega

include hlt

theorem roundBinary_end_div_lt :
    roundBinary (reading + p.windowNs : Int) / (1000000000 : Nat) < twoPow 50 := by
  have hwindow := p.windowNs_lt
  have hpos := p.windowNs_pos
  have hlarge : |((reading + p.windowNs : Int) : Rat)| < twoPow 78 := by
    rw [← Int.cast_abs, abs_of_nonneg (by omega), show (78 : Int) = ((78 : Nat) : Int) from rfl,
      Number.twoPow_natCast]
    exact_mod_cast (by omega : reading + p.windowNs < 2 ^ 78)
  have hround := (abs_lt.mp (Number.Binary64.abs_roundBinary_lt (by norm_num) hlarge)).2
  rw [div_lt_iff₀ (by norm_num)]
  refine hround.trans ?_
  norm_num [twoPow]

theorem resetAt?_eq_ok : resetAt? p reading = .ok (.finite (resetSeconds p reading)) := by
  have hsome := (isSome_of_reading p hnonneg hlt).2
  have hinteger := Number.Binary64.ofInt?_eq_some hsome
  rw [← Number.Binary64.ofInt_eq_ok_iff, ← Number.Binary64.roundBinary_intCast] at hinteger
  have hquotient : 0 ≤ roundBinary (reading + p.windowNs : Int) / (1000000000 : Nat) :=
    div_nonneg (roundBinary_end_nonneg p hnonneg) (by norm_num)
  have hlarge := (roundBinary_end_div_lt p hnonneg hlt).trans_le
    (Number.twoPow_le_twoPow (show (50 : Int) ≤ 1023 by norm_num))
  unfold resetAt? secondsOf?
  rw [hinteger]
  exact congrArg Except.ok (Number.Binary64.ofRat_of_nonneg hquotient hlarge)

theorem resetMicroseconds_bounds :
    0 ≤ resetMicroseconds p reading ∧ resetMicroseconds p reading < 50000000000000000000000 := by
  have hseconds := resetSeconds_nonneg p hnonneg
  have hquotient : |roundBinary (reading + p.windowNs : Int) / (1000000000 : Nat)| < twoPow 50 := by
    rw [abs_of_nonneg (div_nonneg (roundBinary_end_nonneg p hnonneg) (by norm_num))]
    exact roundBinary_end_div_lt p hnonneg hlt
  have hround := (abs_lt.mp (Number.Binary64.abs_roundBinary_lt (by norm_num) hquotient)).2
  have hmicro := (abs_le.mp (abs_microsecondsOfSeconds_sub_le hseconds)).2
  refine ⟨mul_le_microsecondsOfSeconds hseconds (k := 0) (by exact_mod_cast hseconds), ?_⟩
  have hlast : ((resetMicroseconds p reading : Int) : Rat) <
      (50000000000000000000000 : Int) := by
    unfold resetMicroseconds
    unfold resetSeconds at hmicro ⊢
    norm_num [twoPow] at hround ⊢
    push_cast at hmicro
    linarith
  exact_mod_cast hlast

/-- A date is shown for the end of the window, if there is one. -/
theorem localOfSeconds?_resetAt {zone : Zone} {resetAt : Binary64}
    (h : resetAt? p reading = .ok resetAt) (hdated : IsDatedReset zone p reading) :
    Stamp.localOfSeconds? zone resetAt = .ok
      ⟨CivilTime.ofSeconds (zone.wall (resetMicroseconds p reading / 1000000)),
        resetMicroseconds p reading % 1000000⟩ := by
  cases (resetAt?_eq_ok p hnonneg hlt).symm.trans h
  exact Stamp.localOfSeconds?_eq_ok (resetMicroseconds_bounds p hnonneg hlt).1 hdated

theorem exists_localOfSeconds?_resetAt {zone : Zone} {resetAt : Binary64}
    (h : resetAt? p reading = .ok resetAt) (hlate : ¬IsDatedReset zone p reading) :
    ∃ year, 9999 < year ∧ Stamp.localOfSeconds? zone resetAt = .error (.year year) := by
  have hbounds := resetMicroseconds_bounds p hnonneg hlt
  cases (resetAt?_eq_ok p hnonneg hlt).symm.trans h
  exact Stamp.localOfSeconds?_eq_error hbounds.1 hbounds.2 hlate

end Reading

end Counter

end RateLimit
