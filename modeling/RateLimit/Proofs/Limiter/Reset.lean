import Mathlib
import RateLimit.Proofs.Limiter.RetryAfter
import RateLimit.Proofs.Limiter.Stack
import RateLimit.Proofs.Replica.Healthy

/-!
# The second of the reset

A checked response reports the whole second in which the window of its reading ends. The
fraction is dropped, whereas the seconds to wait are rounded up. So the second that is
reported can lie before the end of the window, and `emptyFrom_reset_iff` says when a check
in this second finds an empty window: if the machine numbers do not tell the end of the
window from a whole second. In the second after the one reported every window is empty.
-/

namespace RateLimit

open Act
open Counter (Operation)
open Number (Binary64 roundBinary twoPow roundToward)
open Number.Binary64

/-- The header fields of what happens to a request. -/
def Verdict.headers : Verdict → Except Number.ConversionError Headers
  | .passed headers => .ok headers
  | .denied rejection => rejection.headers

/-- The response of a verdict says that the window resets at a second. -/
def Verdict.ReportsReset (v : Verdict) (reset : Int) : Prop :=
  ∃ headers, v.headers = .ok headers ∧ ("X-RateLimit-Reset", toString reset) ∈ headers

theorem Decision.toInt?_of_mem_headers {d : Decision} {headers : Headers} {reset : Int}
    (h : d.headers = .ok headers) (hmem : ("X-RateLimit-Reset", toString reset) ∈ headers) :
    d.resetAt.toInt? = .ok reset := by
  obtain ⟨reported, hreported, rfl⟩ := headers_eq_ok_iff.mp h
  have htext : toString reset = toString reported := by simpa using hmem
  rw [Int.toString_eq_repr, Int.toString_eq_repr] at htext
  rw [hreported, Int.repr_injective htext]

namespace Counter

variable {p : Policy} {key : String} {o o₁ : Occasion}

theorem seen_of_findsEmpty {s : Store} (hcounted : IsCounted p o) (h : FindsEmpty p key o s) :
    seen p o (Table.get? s key) = 0 := by
  obtain ⟨resetAt, -, hcheck⟩ := fst_check_of_isCounted hcounted key s
  obtain ⟨result, hresult, hallowed, -, hremaining⟩ := h
  cases hresult.symm.trans hcheck
  have hlt : (seen p o (Table.get? s key) : Int) < p.maxRequests := of_decide_eq_true hallowed
  unfold decide at hremaining
  dsimp only at hremaining
  omega

/-- What a check records is out of every later window that is found empty. -/
theorem inWindow_of_seen_check {s : Store} (hcounted : IsCounted p o₁) (hbefore : o₁.Before o)
    (h : seen p o (Table.get? (check p key o₁ s).2 key) = 0) :
    inWindow p o.reading o₁.reading = false := by
  obtain ⟨hdelivery, hfits⟩ := hcounted
  obtain ⟨⟨ttl, httl⟩, -⟩ := fits_iff.mp hfits
  have happlies := Delivery.applies_of_eq hdelivery
  obtain ⟨resetAt, hreset, -⟩ := fst_check_of_isCounted ⟨hdelivery, hfits⟩ key s
  obtain ⟨dropped, added, -, hwindow⟩ := countAndRecord_of_fits happlies httl hfits key s
  rw [(check_of_resetAt?_ok hreset key s).1, hwindow] at h
  have hnone : Operation.Retains p o₁ [] (Table.get? s key) :=
    fun _ he => absurd he List.not_mem_nil
  have hretains : Operation.Retains p o [⟨o₁.reading, o₁.token⟩]
      (some (recorded p o₁ ttl (Table.get? s key))) :=
    hnone.recorded httl hbefore fun _ he => absurd he List.not_mem_nil
  by_contra hin
  have hin' := Bool.eq_true_of_not_eq_false hin
  have hmem := Operation.mem_held_trimmed (hretains _ List.mem_cons_self hin') hin'
  rw [List.length_eq_zero_iff.mp h] at hmem
  cases hmem

/-- Every check from a reading on finds an empty window, as long as no other check on the key
is applied after a first one, which left the store so. -/
def EmptyFrom (p : Policy) (key : String) (first : Occasion) (s : Store) (n : Int) : Prop :=
  ∀ (later : List Operation) (o : Occasion),
    (∀ q o', .check q key o' ∈ later → (Operation.check q key o').isApplied = false) →
    first.Before o → IsCounted p o → n ≤ o.reading →
      FindsEmpty p key o (Operation.run s later).2

/-- The first check that can come decides: if the reading that was recorded is out of its
window, everything is out of every window from then on. -/
theorem emptyFrom_iff {earlier : List Operation} (hcounted : IsCounted p o₁)
    (hlog : ∀ recorded ∈ Operation.log key earlier, recorded ≤ o₁.reading) (n : Int) :
    EmptyFrom p key o₁ (check p key o₁ (Operation.run [] earlier).2).2 n ↔
      (fits p (max n o₁.reading) = true → inWindow p (max n o₁.reading) o₁.reading = false) := by
  constructor
  · intro hempty hfits
    have hge : o₁.reading ≤ max n o₁.reading := le_max_right _ _
    have hle : n ≤ max n o₁.reading := le_max_left _ _
    generalize max n o₁.reading = m at hfits hge hle ⊢
    have hbefore : o₁.Before ⟨m, o₁.time, .delivered, 0⟩ := by
      refine ⟨hge, ?_⟩
      show o₁.time - o₁.time ≤ m - o₁.reading + Occasion.slack
      unfold Occasion.slack Action.second
      omega
    have hcounted' : IsCounted p ⟨m, o₁.time, .delivered, 0⟩ := ⟨rfl, hfits⟩
    have hfinds := hempty [] _ (fun _ _ hmem => absurd hmem List.not_mem_nil) hbefore
      hcounted' hle
    rw [Operation.run_nil] at hfinds
    have hout := inWindow_of_seen_check hcounted hbefore (seen_of_findsEmpty hcounted' hfinds)
    exact hout
  · intro hout later o hlater hbefore hcounted' hle
    have hfirst : max n o₁.reading ≤ o.reading := max_le hle hbefore.1
    have hfits : fits p (max n o₁.reading) = true := by
      obtain ⟨httl, hlow, -⟩ := fits_iff.mp hcounted.2
      obtain ⟨-, hlow', hhigh'⟩ := fits_iff.mp hcounted'.2
      have hge : o₁.reading ≤ max n o₁.reading := le_max_right _ _
      exact fits_iff.mpr ⟨httl, ofInt?_isSome_of_between (by omega) (by omega) hlow hlow',
        ofInt?_isSome_of_between (by omega) (by omega)
          (fits_iff.mp hcounted.2).2.2 hhigh'⟩
    have hself : inWindow p o.reading o₁.reading = false := by
      by_contra hin
      have hearlier := inWindow_of_le hfirst (Bool.eq_true_of_not_eq_false hin)
      rw [hout hfits] at hearlier
      cases hearlier
    refine findsEmpty_of_outside hcounted' hself (fun recorded hmem => ?_) hlater
    by_contra hin
    have hwindow := inWindow_iff.mp (Bool.eq_true_of_not_eq_false hin)
    have hmono := nearest_mono (hlog recorded hmem)
    have hlater' := inWindow_iff.mpr (hwindow.trans_le hmono)
    rw [hself] at hlater'
    cases hlater'

section Seconds

variable {n second : Int} {x : Binary64} (hnonneg : 0 ≤ n) (hlt : n < 2 ^ 61)

include hnonneg hlt

/-- A whole second before a reading stays before it in both roundings, since it is a machine
number in nanoseconds, too. -/
theorem le_of_wholeSecond {k : Int} (hpos : 0 < k) (hle : k * 10 ^ 9 ≤ n) :
    (k : Rat) ≤ roundBinary (roundBinary n / (1000000000 : Nat)) := by
  have hk : (0 : Rat) < k := by exact_mod_cast hpos
  have hwhole : (k : Rat) * 10 ^ 9 ≤ n := by exact_mod_cast hle
  have hn61 : (n : Rat) < twoPow 61 := by
    rw [show (61 : Int) = ((61 : Nat) : Int) from rfl, Number.twoPow_natCast]
    exact_mod_cast hlt
  have hunit : twoPow (61 - 53) = 256 := by norm_num [twoPow]
  have hinteger : ((k * 3906250 : Int) : Rat) * twoPow (61 - 53) ≤ roundBinary n := by
    refine Number.le_roundBinary_of_coarse (by linarith) hn61 (by norm_num) ?_
    rw [hunit]
    push_cast
    linarith
  have hquotient : (k : Rat) ≤ roundBinary n / (1000000000 : Nat) := by
    rw [le_div_iff₀ (by norm_num)]
    rw [hunit] at hinteger
    push_cast at hinteger ⊢
    linarith
  have hsmall : roundBinary n / (1000000000 : Nat) < twoPow 53 :=
    calc roundBinary n / (1000000000 : Nat) < 2 ^ 32 :=
          (abs_lt.mp (abs_roundBinary_div_lt hnonneg hlt)).2
      _ ≤ twoPow 53 := by norm_num [twoPow]
  have hone : twoPow (53 - 53) = 1 := by norm_num [twoPow]
  have hlast := Number.le_roundBinary_of_coarse (m := k) (hk.trans_le hquotient) hsmall
    (by norm_num) (by rwa [hone, mul_one])
  rwa [hone, mul_one] at hlast

/-- The second of a reading is not cut off by more than a second, nor is it rounded up by more
than the roundings can do. -/
theorem bounds_of_second (h : secondsOf? n = .ok x) (hsecond : x.toInt? = .ok second) :
    second * 10 ^ 9 ≤ n + 367 ∧ n < (second + 1) * 10 ^ 9 := by
  obtain ⟨q, hq, herr⟩ := exists_toRat?_secondsOf? hnonneg hlt h
  have hexact := toRat?_secondsOf? hnonneg hlt h
  rw [hq, Option.some.injEq] at hexact
  have hround : 0 ≤ roundBinary n := Number.roundBinary_nonneg (by exact_mod_cast hnonneg)
  have hq0 : 0 ≤ q := by
    rw [hexact]
    exact Number.roundBinary_nonneg (by positivity)
  have hfloor : second = q.floor := by
    have htoward := toInt?_of_toRat? hq
    rw [hsecond, Except.ok.injEq, roundToward, if_neg (not_lt.mpr hq0)] at htoward
    exact htoward
  constructor
  · have hbelow : (second : Rat) ≤ q := by
      rw [hfloor]
      exact Int.floor_le q
    have hle : ((second * 10 ^ 9 : Int) : Rat) ≤ (n + 367 : Int) := by
      have := (abs_le.mp herr).2
      push_cast
      linarith
    exact_mod_cast hle
  · by_contra hle
    have hpos : 0 ≤ second := by
      rw [hfloor]
      exact Int.floor_nonneg.mpr hq0
    have hnext := le_of_wholeSecond hnonneg hlt (show 0 < second + 1 by omega) (not_lt.mp hle)
    rw [← hexact] at hnext
    have hlast : second + 1 ≤ q.floor := Int.le_floor.mpr hnext
    omega

end Seconds

end Counter

namespace Replica

variable {timeout : Timeout} {r : Replica}

theorem Healthy.withRecord (h : Healthy timeout r) (record : Log.Record) :
    Healthy timeout (r.withRecord record) := by
  rw [withRecord_eq]
  exact h.relogged _

theorem Healthy.found (h : Healthy timeout r) (reg : Registry) (name : Option String) :
    Healthy timeout (reg.found name r) := by
  rw [Registry.found_eq]
  split_ifs
  · exact h.withRecord _
  · exact h

theorem met_found (reg : Registry) (name : Option String) (p : Policy) :
    (reg.found name r).met p = r.met p := by
  rw [Registry.found_eq]
  split_ifs
  · unfold met
    rw [clock_withRecord, issuedTokens_withRecord]
  · rfl

theorem isFaithful_met (p : Policy) : (r.met p).delivery.isFaithful = true := by
  show (undisturbed p).isFaithful = true
  unfold undisturbed
  cases p.keyTtl? <;> rfl

/-- A check is not made when its reset time cannot be told. -/
theorem fst_on_check_of_untold {p : Policy} {e : Number.ConversionError}
    (h : Counter.resetAt? p r.clock.now = .error e) (timeout : Timeout) (key : String) :
    ((check timeout p key).on r).1 = .error (.conversion e) := by
  unfold check checkThrough
  rw [on_bind_of_ok r (on_readClock r)]
  dsimp only
  rw [h]
  rfl

end Replica

namespace Limiter

variable {l : Limiter} {c : Caller} {name : Option String} {s : Strategy} {r r' : Replica}
  {v : Verdict} {reset : Int}

/-- A verdict that reports a reset comes from a decision of the store. -/
theorem reset_of_verdict {d : Decision} (h : (verdict d).on r = (.ok v, r'))
    (hreported : v.ReportsReset reset) :
    d.degraded = false ∧ d.resetAt.toInt? = .ok reset ∧ r'.store = r.store := by
  obtain ⟨headers, hheaders, hmem⟩ := hreported
  rcases verdict_cases d r with
    ⟨-, hrun⟩ | ⟨hdegraded, -, shown, hshown, hrun⟩ |
      ⟨hdegraded, -, x, seconds, -, -, hrun⟩ | ⟨-, fault, r'', hrun⟩
  · cases hrun.symm.trans h
    cases hheaders
    cases hmem
  · cases hrun.symm.trans h
    cases hheaders
    exact ⟨hdegraded, Decision.toInt?_of_mem_headers hshown hmem, rfl⟩
  · cases hrun.symm.trans h
    unfold Verdict.headers Rejection.headers at hheaders
    dsimp only at hheaders
    cases hshown : d.headers with
    | error e =>
        rw [hshown] at hheaders
        cases hheaders
    | ok shown =>
        rw [hshown] at hheaders
        cases hheaders
        have hmem' : ("X-RateLimit-Reset", toString reset) ∈ shown := by simpa using hmem
        exact ⟨hdegraded, Decision.toInt?_of_mem_headers hshown hmem', rfl⟩
  · cases hrun.symm.trans h

/-- A reset is reported for a check that was counted, and is that of its reading. -/
theorem counted_of_reported (hhealthy : Replica.Healthy l.timeout r)
    (h : (l.enforce c name s).on r = (.ok v, r')) (hreported : v.ReportsReset reset) :
    Counter.IsCounted (l.policyOf name) (r.met (l.policyOf name)) ∧
      (∃ resetAt, Counter.resetAt? (l.policyOf name) r.clock.now = .ok resetAt ∧
        resetAt.toInt? = .ok reset) ∧
      r'.store = (Counter.check (l.policyOf name) (l.keyOf c name s)
        (r.met (l.policyOf name)) r.store).2 := by
  have henabled : l.enabled = true := by
    by_contra hdisabled
    cases (on_enforce_of_disabled hdisabled).symm.trans h
    obtain ⟨headers, hheaders, hmem⟩ := hreported
    cases hheaders
    cases hmem
  obtain ⟨d, r₁, hcheck, hverdict⟩ := exists_check_of_enforce henabled h
  obtain ⟨hdegraded, hreset, hstore⟩ := reset_of_verdict hverdict hreported
  have hfound := l.registry.beside_found name r
  cases htold : Counter.resetAt? (l.policyOf name) r.clock.now with
  | error e =>
      rw [← hfound.clock_eq] at htold
      have hfails := Replica.fst_on_check_of_untold htold l.timeout (l.keyOf c name s)
      rw [hcheck] at hfails
      cases hfails
  | ok resetAt =>
      have htold' := htold
      rw [← hfound.clock_eq] at htold'
      obtain ⟨result, records, hresult, hrun⟩ :=
        (hhealthy.found l.registry name).on_check htold' (l.keyOf c name s)
      cases hrun.symm.trans hcheck
      rw [store_settled] at hstore
      have hleft : r'.store = (Counter.check (l.policyOf name) (l.keyOf c name s)
          (r.met (l.policyOf name)) r.store).2 := by
        rw [hstore, ← Replica.met_found l.registry name, ← hfound.store_eq]
        rfl
      rw [Replica.met_found, hfound.store_eq] at hresult
      rcases Counter.check_cases_of_reset (Replica.isFaithful_met _) htold
          (l.keyOf c name s) r.store with ⟨-, fault, hanswer⟩ | ⟨hcounted, hanswer⟩
      · cases hresult.symm.trans hanswer
        cases hdegraded
      · cases hresult.symm.trans hanswer
        exact ⟨hcounted, ⟨resetAt, rfl, hreset⟩, hleft⟩

/-- The second that a response reports is true if the reading that was counted is out of the
window of its beginning, or of the reading itself if this is later, and only then. While the
clock is of moderate size, the window ends in this second, up to the roundings, so that a
second later every window is empty. If it ends by the beginning of the second, the second is
true; if it ends more than 256 nanoseconds after it, a check comes too early. -/
theorem emptyFrom_reset_iff (hhealthy : Replica.Healthy l.timeout r)
    (h : (l.enforce c name s).on r = (.ok v, r')) (hreported : v.ReportsReset reset)
    {earlier : List Operation} (hearlier : r.store = (Operation.run [] earlier).2)
    (hlog : ∀ recorded ∈ Operation.log (l.keyOf c name s) earlier, recorded ≤ r.clock.now) :
    let p := l.policyOf name
    let key := l.keyOf c name s
    let now := r.clock.now
    let due := reset * 10 ^ 9
    (Counter.EmptyFrom p key (r.met p) r'.store due ↔
        (Counter.fits p (max due now) = true →
          Counter.inWindow p (max due now) now = false)) ∧
      (0 ≤ now → now + p.windowNs < 2 ^ 61 →
        due ≤ now + p.windowNs + 367 ∧ now + p.windowNs < due + 10 ^ 9 ∧
          Counter.EmptyFrom p key (r.met p) r'.store (due + 10 ^ 9) ∧
          (now + p.windowNs ≤ due → Counter.EmptyFrom p key (r.met p) r'.store due) ∧
          (due + 256 < now + p.windowNs →
            ¬Counter.EmptyFrom p key (r.met p) r'.store due)) := by
  intro p key now due
  obtain ⟨hcounted, ⟨resetAt, htold, hreset⟩, hstore⟩ := counted_of_reported hhealthy h hreported
  have hiff : ∀ n, Counter.EmptyFrom p key (r.met p) r'.store n ↔
      (Counter.fits p (max n now) = true → Counter.inWindow p (max n now) now = false) := by
    rw [hstore, hearlier]
    exact Counter.emptyFrom_iff hcounted hlog
  refine ⟨hiff due, fun hnow hend => ?_⟩
  have hpos : 0 < p.windowNs := p.windowNs_pos
  obtain ⟨hlow, hhigh⟩ := Counter.bounds_of_second (by omega) hend htold hreset
  have hpast : ∀ n, now + p.windowNs ≤ n → Counter.EmptyFrom p key (r.met p) r'.store n := by
    intro n hle
    exact (hiff n).mpr fun _ => Counter.inWindow_of_older (by omega)
  refine ⟨hlow, by omega, hpast _ (by omega), hpast due, fun hearly hempty => ?_⟩
  obtain ⟨⟨ttl, httl⟩, -⟩ := Counter.fits_iff.mp hcounted.2
  have hwindow := p.le_windowNs
  have hfits : Counter.fits p (max due now) = true :=
    Counter.fits_of_reading httl (by omega) (by omega)
  have hin : Counter.inWindow p (max due now) now = true :=
    Counter.inWindow_of_recent hnow (by omega) (by omega)
  rw [(hiff due).mp hempty hfits] at hin
  cases hin

/-- The header fields of what happened to a request, if it was checked. -/
def shownHeaders? : Except Fault Verdict → Option Headers
  | .ok v => v.headers.toOption
  | .error _ => none

theorem reported_of_shownHeaders? {x : Except Fault Verdict × Replica} {headers : Headers}
    (h : shownHeaders? x.1 = some headers) (reset : Int)
    (hmem : ("X-RateLimit-Reset", toString reset) ∈ headers) :
    ∃ v r', x = (.ok v, r') ∧ v.ReportsReset reset := by
  obtain ⟨result, r'⟩ := x
  cases result with
  | error fault => cases h
  | ok v =>
      refine ⟨v, r', rfl, headers, ?_, hmem⟩
      cases hheaders : v.headers with
      | error e => simp [shownHeaders?, hheaders, Except.toOption] at h
      | ok shown =>
          simp only [shownHeaders?, hheaders, Except.toOption, Option.some.injEq] at h
          rw [h]

def guest : Caller := { clientIp := "10.0.0.1" }

/-- A replica with an empty store at a time of the clock. -/
def reachingAt (now : Int) : Replica := Replica.reaching.atClock { now }

/-- A request on a whole second, whose window ends with another one. -/
theorem wholeSecond_emptyFrom_reset :
    ∃ v r', (builtin.enforce guest (some "strict") .ip).on (reachingAt 1700000000000000000) =
        (.ok v, r') ∧ v.ReportsReset 1700000300 ∧
      Counter.EmptyFrom strictPolicy guestKey
        ((reachingAt 1700000000000000000).met strictPolicy) r'.store 1700000300000000000 := by
  have hheaders : shownHeaders? ((builtin.enforce guest (some "strict") .ip).on
      (reachingAt 1700000000000000000)).1 = some [("X-RateLimit-Limit", "3"),
        ("X-RateLimit-Remaining", "2"), ("X-RateLimit-Reset", "1700000300")] := by
    decide +kernel
  obtain ⟨v, r', hrun, hreported⟩ :=
    reported_of_shownHeaders? hheaders 1700000300 (by decide +kernel)
  have hhealthy : Replica.Healthy builtin.timeout (reachingAt 1700000000000000000) :=
    Replica.healthy_reaching.atClock _
  have hlog : ∀ recorded ∈ Operation.log guestKey [], recorded ≤ 1700000000000000000 := nofun
  have hwindow : strictPolicy.windowNs = 300000000000 := by decide +kernel
  obtain ⟨-, hmoderate⟩ := emptyFrom_reset_iff hhealthy hrun hreported rfl hlog
  obtain ⟨-, -, -, hexact, -⟩ := hmoderate (by decide)
    (show 1700000000000000000 + strictPolicy.windowNs < 2 ^ 61 by rw [hwindow]; decide)
  refine ⟨v, r', hrun, hreported, hexact ?_⟩
  show 1700000000000000000 + strictPolicy.windowNs ≤ 1700000300 * 10 ^ 9
  rw [hwindow]
  decide

/-- A check at the very beginning of the second that is reported below. -/
def nextOccasion : Occasion := ⟨1700000300000000000, 1700000300000000000, .delivered, 1⟩

/-- The window of a request in the middle of a second ends in the middle of the second that
is reported. A check at the beginning of this second finds the request still there,
although the store is healthy, the clock never goes back and there is one policy for the
key. -/
theorem halfSecond_not_findsEmpty :
    ∃ v r' result,
      (builtin.enforce guest (some "strict") .ip).on (reachingAt 1700000000500000000) =
        (.ok v, r') ∧
      v.ReportsReset 1700000300 ∧ 1700000300 * 10 ^ 9 ≤ nextOccasion.reading ∧
      Replica.Healthy builtin.timeout (reachingAt 1700000000500000000) ∧
      Operation.InStep [.check strictPolicy guestKey
          ((reachingAt 1700000000500000000).met strictPolicy),
        .check strictPolicy guestKey nextOccasion] ∧
      Operation.OnePolicy [.check strictPolicy guestKey
          ((reachingAt 1700000000500000000).met strictPolicy),
        .check strictPolicy guestKey nextOccasion] ∧
      Counter.IsCounted strictPolicy nextOccasion ∧
      (Counter.check strictPolicy guestKey nextOccasion r'.store).1 = .ok result ∧
      result.decision.remaining = 1 ∧
      ¬Counter.FindsEmpty strictPolicy guestKey nextOccasion r'.store := by
  have hheaders : shownHeaders? ((builtin.enforce guest (some "strict") .ip).on
      (reachingAt 1700000000500000000)).1 = some [("X-RateLimit-Limit", "3"),
        ("X-RateLimit-Remaining", "2"), ("X-RateLimit-Reset", "1700000300")] := by
    decide +kernel
  obtain ⟨v, r', hrun, hreported⟩ :=
    reported_of_shownHeaders? hheaders 1700000300 (by decide +kernel)
  have hhealthy : Replica.Healthy builtin.timeout (reachingAt 1700000000500000000) :=
    Replica.healthy_reaching.atClock _
  obtain ⟨hfirst, -, hstore⟩ := counted_of_reported hhealthy hrun hreported
  have hcounted : Counter.IsCounted strictPolicy nextOccasion := ⟨rfl, by decide +kernel⟩
  have hseen : Counter.seen strictPolicy nextOccasion (Table.get? r'.store guestKey) = 1 := by
    rw [hstore]
    decide +kernel
  obtain ⟨resetAt, -, hcheck⟩ := Counter.fst_check_of_isCounted hcounted guestKey r'.store
  rw [hseen] at hcheck
  have hquota : strictPolicy.maxRequests = 3 := by decide +kernel
  have hremaining : (Counter.decide strictPolicy (1 : Nat) resetAt).remaining = 1 := by
    unfold Counter.decide
    rw [hquota]
    rfl
  refine ⟨v, r', _, hrun, hreported, by decide, hhealthy,
    Operation.inStep_of_latency (by decide) (by decide), by decide +kernel, hcounted, hcheck,
    hremaining, fun hempty => ?_⟩
  have hnone := Counter.seen_of_findsEmpty hcounted hempty
  rw [hseen] at hnone
  cases hnone

end Limiter

end RateLimit
