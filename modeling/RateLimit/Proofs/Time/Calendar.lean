import Mathlib.Tactic
import RateLimit.Time.Calendar

/-!
# Times that have a date

The days of the years 1 to 9999 have years of four digits at most, `one_le_year_civilDate` and
`year_civilDate_le`. So a stamp can be made of each number of seconds that lies in these years
when it is rounded to microseconds: `Stamp.exists_ofSeconds?_eq`. Later days have later years,
`lt_year_civilDate`, and no date: `datedTime?_eq_error`.

Local time is told if clocks on a wall show a year of four digits, then and at the times that are
looked up to learn whether they show it for the second time: `Zone.HasDate`. In a zone that does
not put its clocks back, what they show then decides it, `Zone.hasDate_iff`.
-/

namespace RateLimit

open Number (Binary64)

/-- The years are bounded from 1 January of the first one on. -/
theorem one_le_year_civilDate {days : Int} (h : -719162 ≤ days) : 1 ≤ (civilDate days).1 := by
  simp only [civilDate, cycleDays]
  split_ifs <;> omega

/-- The years are bounded up to 31 December of the last one. -/
theorem year_civilDate_le {days : Int} (h : days ≤ 2932896) : (civilDate days).1 ≤ 9999 := by
  simp only [civilDate, cycleDays]
  split_ifs <;> omega

theorem lt_year_civilDate {days : Int} (h : 2932896 < days) : 9999 < (civilDate days).1 := by
  simp only [civilDate, cycleDays]
  split_ifs <;> omega

/-- Years have 31 bits for a long time. -/
theorem year_civilDate_lt {days : Int} (h : days ≤ 700000000000) :
    (civilDate days).1 < 2147483648 := by
  simp only [civilDate, cycleDays]
  split_ifs <;> omega

/-- The first second of the year 10000, where there are no more dates. -/
def yearTenThousand : Int := 253402300800

section Zones

variable {zone : Zone} {n : Int}

/-- The clock and the calendar hold these years. -/
theorem civilTime?_eq (hlower : -62135596800 ≤ zone.wall n) (hupper : n ≤ 60000000000000000) :
    civilTime? zone n = .ok (CivilTime.ofSeconds (zone.wall n)) := by
  have hzone := zone.lt_offset n
  have hzone' := zone.offset_lt n
  unfold Zone.wall at hlower
  have hfirst : 1 ≤ (CivilTime.ofSeconds (zone.wall n)).year :=
    one_le_year_civilDate (by unfold Zone.wall; omega)
  have hlast : (CivilTime.ofSeconds (zone.wall n)).year < 2147483648 :=
    year_civilDate_lt (by unfold Zone.wall; omega)
  unfold civilTime?
  dsimp only
  rw [if_neg (by omega), if_neg (by omega)]

theorem datedTime?_eq_ok (hlower : -62135596800 ≤ zone.wall n)
    (hlt : zone.wall n < yearTenThousand) :
    datedTime? zone n = .ok (CivilTime.ofSeconds (zone.wall n)) := by
  have hzone := zone.lt_offset n
  have hend : yearTenThousand = 253402300800 := rfl
  have hfirst : 1 ≤ (CivilTime.ofSeconds (zone.wall n)).year := one_le_year_civilDate (by omega)
  have hlast : (CivilTime.ofSeconds (zone.wall n)).year ≤ 9999 := year_civilDate_le (by omega)
  unfold datedTime?
  rw [civilTime?_eq hlower (by unfold Zone.wall at hlt; omega)]
  exact if_neg (by omega)

/-- From the year 10000 on it is the year that is wrong. -/
theorem datedTime?_eq_error (hle : yearTenThousand ≤ zone.wall n) (hlt : n ≤ 60000000000000000) :
    ∃ year, 9999 < year ∧ datedTime? zone n = .error (.year year) := by
  have hzone := zone.offset_lt n
  have hend : yearTenThousand = 253402300800 := rfl
  have hlate : 9999 < (CivilTime.ofSeconds (zone.wall n)).year := lt_year_civilDate (by omega)
  have hheld : (CivilTime.ofSeconds (zone.wall n)).year < 2147483648 :=
    year_civilDate_lt (by unfold Zone.wall; omega)
  refine ⟨_, hlate, ?_⟩
  unfold datedTime? heldYear
  rw [civilTime?_eq (by omega) hlt]
  refine (if_pos (Or.inr hlate)).trans ?_
  rw [Int.bmod_eq_of_le (by omega) (by omega)]

namespace Zone

/-- Local time can be told: neither then nor at the times that are looked up does it lie after
the year 9999. -/
structure HasDate (zone : Zone) (n : Int) : Prop where
  now : zone.wall n < yearTenThousand
  before : zone.wall (n - 86400) < yearTenThousand
  repeated : zone.gained n < 0 → zone.wall (n + zone.gained n) < yearTenThousand

/-- If the clocks of a zone are never put back, all that counts is what they show. -/
theorem hasDate_iff (h : ∀ n, 0 ≤ zone.gained n) :
    zone.HasDate n ↔ zone.wall n < yearTenThousand := by
  refine ⟨HasDate.now, fun hnow => ⟨hnow, ?_, fun hback => absurd hback (not_lt.mpr (h n))⟩⟩
  have hforward := h n
  unfold gained at hforward
  unfold wall at hnow ⊢
  omega

theorem gained_universal (n : Int) : universal.gained n = 0 := rfl

@[simp] theorem wall_universal (n : Int) : universal.wall n = n := Int.add_zero n

end Zone

/-- Since 1970 local time is told, if it can be. -/
theorem localTime?_eq_ok (hnonneg : 0 ≤ n) (h : zone.HasDate n) :
    localTime? zone n = .ok (CivilTime.ofSeconds (zone.wall n)) := by
  have hnow := zone.lt_offset n
  have hday := zone.lt_offset (n - 86400)
  have hbefore := datedTime?_eq_ok (by unfold Zone.wall; omega) h.before
  unfold localTime?
  rw [datedTime?_eq_ok (by unfold Zone.wall; omega) h.now, hbefore]
  dsimp only [bind, Except.bind]
  split_ifs with hback
  · have hrepeated := zone.lt_offset (n + zone.gained n)
    have hday' := zone.offset_lt (n - 86400)
    rw [datedTime?_eq_ok (by unfold Zone.wall Zone.gained; unfold Zone.gained at hrepeated; omega)
      (h.repeated hback)]
    rfl
  · rfl

/-- Otherwise it is a year after 9999 that is wrong. -/
theorem localTime?_eq_error (hnonneg : 0 ≤ n) (hle : n ≤ 50000000000000000) (h : ¬zone.HasDate n) :
    ∃ year, 9999 < year ∧ localTime? zone n = .error (.year year) := by
  have hnow := zone.lt_offset n
  have hnow' := zone.offset_lt n
  have hday := zone.lt_offset (n - 86400)
  unfold localTime?
  by_cases hdate : zone.wall n < yearTenThousand
  swap
  · obtain ⟨year, hyear, herror⟩ := datedTime?_eq_error (not_lt.mp hdate) (by omega)
    exact ⟨year, hyear, by rw [herror]; rfl⟩
  rw [datedTime?_eq_ok (by unfold Zone.wall; omega) hdate]
  by_cases hbefore : zone.wall (n - 86400) < yearTenThousand
  swap
  · obtain ⟨year, hyear, herror⟩ := datedTime?_eq_error (not_lt.mp hbefore) (by omega)
    exact ⟨year, hyear, by rw [herror]; rfl⟩
  rw [datedTime?_eq_ok (by unfold Zone.wall; omega) hbefore]
  have hlate : ¬(zone.gained n < 0 → zone.wall (n + zone.gained n) < yearTenThousand) :=
    fun hrepeated => h ⟨hdate, hbefore, hrepeated⟩
  obtain ⟨hback, hrepeated⟩ := Classical.not_imp.mp hlate
  obtain ⟨year, hyear, herror⟩ := datedTime?_eq_error (not_lt.mp hrepeated)
    (by omega)
  refine ⟨year, hyear, ?_⟩
  dsimp only [bind, Except.bind]
  rw [if_pos hback, herror]

end Zones

namespace Stamp

/-- A number of microseconds in the years 1 to 9999. -/
def InYears (n : Int) : Prop := -62135596800000000 ≤ n ∧ n < 253402300800000000

instance (n : Int) : Decidable (InYears n) := inferInstanceAs (Decidable (_ ∧ _))

theorem ofMicroseconds?_eq_ok {n : Int} (h : InYears n) :
    ofMicroseconds? n = .ok ⟨CivilTime.ofSeconds (n / 1000000), n % 1000000⟩ := by
  obtain ⟨hlower, hupper⟩ := h
  have hend : yearTenThousand = 253402300800 := rfl
  have hdate : datedTime? .universal (n / 1000000) =
      .ok (CivilTime.ofSeconds (Zone.universal.wall (n / 1000000))) :=
    datedTime?_eq_ok (by rw [Zone.wall_universal]; omega) (by rw [Zone.wall_universal]; omega)
  unfold ofMicroseconds?
  rw [hdate, Zone.wall_universal]
  rfl

theorem exists_ofMicroseconds?_eq {n : Int} (h : InYears n) :
    ∃ stamp, ofMicroseconds? n = .ok stamp :=
  ⟨_, ofMicroseconds?_eq_ok h⟩

/-- A number of seconds that lies in the years 1 to 9999 when it is rounded to microseconds. -/
def IsDated : Binary64 → Prop
  | .finite q => InYears (microsecondsOfSeconds q)
  | .negativeZero => True
  | .infinite _ => False
  | .nan => False

theorem exists_ofSeconds?_eq {x : Binary64} (h : IsDated x) :
    ∃ stamp, ofSeconds? x = .ok stamp := by
  cases x with
  | finite q => exact exists_ofMicroseconds?_eq h
  | negativeZero => exact exists_ofMicroseconds?_eq (n := 0) (by decide)
  | infinite b => exact h.elim
  | nan => exact h.elim

variable {zone : Zone} {q : Rat}

theorem localOfSeconds?_eq_ok (hnonneg : 0 ≤ microsecondsOfSeconds q)
    (h : zone.HasDate (microsecondsOfSeconds q / 1000000)) :
    localOfSeconds? zone (.finite q) = .ok
      ⟨CivilTime.ofSeconds (zone.wall (microsecondsOfSeconds q / 1000000)),
        microsecondsOfSeconds q % 1000000⟩ := by
  have htime := localTime?_eq_ok (by omega) h
  unfold localOfSeconds? microseconds?
  dsimp only [bind, Except.bind]
  rw [htime]
  rfl

theorem localOfSeconds?_eq_error (hnonneg : 0 ≤ microsecondsOfSeconds q)
    (hlt : microsecondsOfSeconds q < 50000000000000000000000)
    (h : ¬zone.HasDate (microsecondsOfSeconds q / 1000000)) :
    ∃ year, 9999 < year ∧ localOfSeconds? zone (.finite q) = .error (.year year) := by
  obtain ⟨year, hyear, herror⟩ := localTime?_eq_error (by omega) (by omega) h
  refine ⟨year, hyear, ?_⟩
  unfold localOfSeconds? microseconds?
  dsimp only [bind, Except.bind]
  rw [herror]

end Stamp

end RateLimit
