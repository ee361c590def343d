import RateLimit.Proofs.Counter.Afterwards
import RateLimit.Proofs.Counter.Denial
import RateLimit.Proofs.Limiter.Enforce
import RateLimit.Proofs.Number.Error

/-!
# How long a denied caller has to wait

A denial reports the seconds from a second reading of the clock until a window after the
first one is over. Both times are machine numbers, so what is reported is off by five
roundings, which come to less than a microsecond, and by the rounding up to whole seconds,
`retryAfter_bounds`. Once a caller has waited for so long, and a microsecond more, nothing
that was recorded up to the denial is in the window, `retryAfter_suffices`.
-/

namespace RateLimit

open Act
open Counter (Operation)
open Number (Binary64 roundBinary)
open Number.Binary64

namespace Counter

section Seconds

variable {n : Int} {x : Binary64} (hnonneg : 0 ≤ n) (hlt : n < 2 ^ 61)

include hnonneg hlt

theorem abs_roundBinary_div_lt : |roundBinary n / (1000000000 : Nat)| < 2 ^ 32 := by
  have hsmall : |n| < 2 ^ 61 := by rwa [abs_of_nonneg hnonneg]
  have hinteger := abs_le.mp (abs_sub_roundBinary_le_128 hsmall)
  have hn : (0 : Rat) ≤ n ∧ (n : Rat) < 2 ^ 61 := by exact_mod_cast And.intro hnonneg hlt
  rw [abs_lt]
  push_cast
  constructor <;> linarith

/-- A reading in seconds is rounded twice. -/
theorem toRat?_secondsOf? (h : secondsOf? n = .ok x) :
    x.toRat? = some (roundBinary (roundBinary n / (1000000000 : Nat))) := by
  have hsmall : |n| < 2 ^ 61 := by rwa [abs_of_nonneg hnonneg]
  unfold secondsOf? at h
  rw [ofInt_of_lt hsmall] at h
  cases h
  exact toRat?_ofRat (abs_roundBinary_div_lt hnonneg hlt)

/-- A reading in seconds is off by two roundings. -/
theorem exists_toRat?_secondsOf? (h : secondsOf? n = .ok x) :
    ∃ q : Rat, x.toRat? = some q ∧ |q * 10 ^ 9 - n| ≤ 367 := by
  have hsmall : |n| < 2 ^ 61 := by rwa [abs_of_nonneg hnonneg]
  have hinteger := abs_le.mp (abs_sub_roundBinary_le_128 hsmall)
  have hround := abs_le.mp (abs_roundBinary_sub_le (abs_roundBinary_div_lt hnonneg hlt))
  -- The integer is off by 128 nanoseconds, the quotient by 10 ^ 9 / 2 ^ 22 < 239.
  refine ⟨_, toRat?_secondsOf? hnonneg hlt h, ?_⟩
  rw [abs_le]
  push_cast at hround ⊢
  constructor <;> linarith

end Seconds

end Counter

namespace Decision

variable {d : Decision} {m n seconds : Int} {x : Binary64}

/-- The seconds to wait, which are rounded up, make up for the errors of the roundings
but for a microsecond. -/
theorem retryAfter_bounds (hm : 0 ≤ m ∧ m < 2 ^ 61) (hn : 0 ≤ n ∧ n < 2 ^ 61)
    (hreset : Counter.secondsOf? m = .ok d.resetAt) (hnow : Counter.secondsOf? n = .ok x)
    (h : d.retryAfter x = .ok seconds) :
    m - n - 1000 ≤ seconds * 10 ^ 9 ∧
      seconds * 10 ^ 9 < max 0 (m - n) + 10 ^ 9 + 1000 := by
  obtain ⟨a, ha, herr⟩ := Counter.exists_toRat?_secondsOf? hm.1 hm.2 hreset
  obtain ⟨b, hb, herr'⟩ := Counter.exists_toRat?_secondsOf? hn.1 hn.2 hnow
  rw [abs_le] at herr herr'
  have hmRat : (0 : Rat) ≤ m ∧ (m : Rat) < 2 ^ 61 := by exact_mod_cast hm
  have hnRat : (0 : Rat) ≤ n ∧ (n : Rat) < 2 ^ 61 := by exact_mod_cast hn
  have hdiff : |a - b| < 2 ^ 32 := by
    rw [abs_lt]
    constructor <;> linarith
  have hround := abs_le.mp (abs_roundBinary_sub_le hdiff)
  have hceil := ceil?_of_toRat? (toRat?_sub ha hb hdiff)
  unfold retryAfter at h
  rw [hceil] at h
  cases h
  -- From here on the exact difference, the rounded one and its ceiling are compared.
  have hle : roundBinary (a - b) ≤ (roundBinary (a - b)).ceil := Rat.le_ceil
  have hlt : ((roundBinary (a - b)).ceil : Rat) < roundBinary (a - b) + 1 := Rat.ceil_lt
  have hlow : ((m - n - 1000 : Int) : Rat) ≤ ((roundBinary (a - b)).ceil * 10 ^ 9 : Int) := by
    push_cast
    linarith
  have hhigh : (((roundBinary (a - b)).ceil * 10 ^ 9 : Int) : Rat) <
      (m - n + 10 ^ 9 + 1000 : Int) := by
    push_cast
    linarith
  have hlow' := Int.cast_le.mp hlow
  have hhigh' := Int.cast_lt.mp hhigh
  omega

end Decision

namespace Counter

variable {p : Policy} {key : String} {o : Occasion}

/-- The numbers of a check exist while the clock and the window are of moderate size. -/
theorem fits_of_lt {ttl : Int} (httl : p.keyTtl? = .ok ttl)
    (hlow : 0 ≤ o.reading - p.windowNs) (hlt : o.reading < 2 ^ 61) :
    fits p o.reading = true := by
  have hpos := p.windowNs_pos
  exact fits_of_reading httl (by omega) hlt

/-- A check that is counted, finds an empty window and so has the quota to itself. -/
def FindsEmpty (p : Policy) (key : String) (o : Occasion) (s : Store) : Prop :=
  ∃ result, (check p key o s).1 = .ok result ∧ result.decision.allowed = true ∧
    result.decision.degraded = false ∧ result.decision.remaining = (p.maxRequests : Int) - 1

theorem findsEmpty_of_seen {s : Store} (hcounted : IsCounted p o)
    (hseen : seen p o (Table.get? s key) = 0) : FindsEmpty p key o s := by
  obtain ⟨resetAt, -, hcheck⟩ := fst_check_of_isCounted hcounted key s
  rw [hseen] at hcheck
  obtain ⟨hallowed, hremaining⟩ := Operation.decide_zero p resetAt
  exact ⟨_, hcheck, hallowed, rfl, hremaining⟩

/-- What was recorded up to a check and by it is all there is, if no other check is applied
afterwards. A later check finds an empty window if none of this lies in its own. -/
theorem findsEmpty_of_outside {q : Policy} {o₁ : Occasion} {earlier later : List Operation}
    (hcounted : IsCounted p o) (hfirst : inWindow p o.reading o₁.reading = false)
    (hearlier : ∀ recorded ∈ Operation.log key earlier, inWindow p o.reading recorded = false)
    (hlater : ∀ q o, Operation.check q key o ∈ later →
      (Operation.check q key o).isApplied = false) :
    FindsEmpty p key o (Operation.run
      (check q key o₁ (Operation.run [] earlier).2).2 later).2 := by
  let ops := earlier ++ Operation.check q key o₁ :: later
  have hrun : (Operation.run (check q key o₁ (Operation.run [] earlier).2).2 later).2 =
      (Operation.run [] ops).2 := by
    rw [Operation.run_append, Operation.run_cons]
    rfl
  have hlog : ∀ recorded ∈ Operation.log key ops, inWindow p o.reading recorded = false := by
    intro recorded hmem
    obtain ⟨e, he, rfl⟩ := List.mem_map.mp hmem
    rcases Operation.mem_of_mem_ledger_append he with hold | ⟨q, o₂, hcheck, happlied, rfl⟩
    · exact hearlier e.reading (List.mem_map_of_mem hold)
    · rcases List.mem_cons.mp hcheck with hself | hmore
      · cases hself
        exact hfirst
      · rw [hlater q o₂ hmore] at happlied
        cases happlied
  rw [hrun]
  exact findsEmpty_of_seen hcounted (Operation.seen_eq_zero_of_outside hlog)

/-- A check has the quota to itself if everything that was recorded up to an earlier check
is older than its window, and nothing was recorded afterwards. -/
theorem check_of_quiet {q : Policy} {o₁ : Occasion} {earlier later : List Operation}
    (hcounted : IsCounted p o) (hfirst : o₁.reading ≤ o.reading - p.windowNs)
    (hearlier : ∀ recorded ∈ Operation.log key earlier, recorded ≤ o.reading - p.windowNs)
    (hlater : ∀ q o, Operation.check q key o ∈ later →
      (Operation.check q key o).isApplied = false) :
    ∃ result, (check p key o (Operation.run
        (check q key o₁ (Operation.run [] earlier).2).2 later).2).1 = .ok result ∧
      result.decision.allowed = true ∧ result.decision.degraded = false ∧
      result.decision.remaining = (p.maxRequests : Int) - 1 :=
  findsEmpty_of_outside hcounted (inWindow_of_older hfirst)
    (fun recorded hmem => inWindow_of_older (hearlier recorded hmem)) hlater

end Counter

namespace Limiter

variable {l : Limiter} {c : Caller} {name : Option String} {s : Strategy} {r r' : Replica}
  {rejection : Rejection}

/-- What a denial comes from: a check at the first reading of the clock, which is left in
the store, and a second reading. -/
theorem check_of_denied
    (hreset : (ofInt? (r.clock.now + (l.policyOf name).windowNs)).isSome = true)
    (h : (l.enforce c name s).on r = (.ok (.denied rejection), r')) :
    ∃ o x, o.reading = r.clock.now ∧
      r'.store = (Counter.check (l.policyOf name) (l.keyOf c name s) o r.store).2 ∧
      Counter.resetAt? (l.policyOf name) r.clock.now = .ok rejection.decision.resetAt ∧
      Counter.secondsOf? (r.clock.now + r.clock.tick) = .ok x ∧
      rejection.decision.retryAfter x = .ok rejection.retryAfter := by
  obtain ⟨r₁, x, hcheck, -, -, hx, hseconds, hstore⟩ := denied_of_enforce h
  have hfound := l.registry.beside_found name r
  obtain ⟨resetAt, hresetAt⟩ := Counter.resetAt?_eq_ok_of_isSome hreset
  rw [← hfound.clock_eq] at hresetAt
  obtain ⟨o, result, r₂, hreading, happly, hrun, hclock, hreported⟩ :=
    Replica.exists_on_check l.timeout hresetAt (l.keyOf c name s)
  obtain ⟨hdecision, rfl⟩ := Prod.mk.inj (hrun.symm.trans hcheck)
  rw [Except.ok.inj hdecision] at hreported
  rw [hfound.store_eq] at happly
  rw [hfound.clock_eq] at hreading hresetAt
  refine ⟨o, x, hreading, ?_, ?_, ?_, hseconds⟩
  · rw [hstore, happly]
  · rw [hresetAt, hreported]
  · rw [← hx, hclock]
    exact congrArg Counter.secondsOf? (by rw [← hfound.clock_eq]; rfl)

/-- What a denied caller is told to wait is the rest of the window, up to the rounding to
whole seconds and a microsecond. If nothing else is recorded under the key while the caller
waits, and a microsecond more, the next check has the whole quota to itself, whatever was
recorded up to the denial. -/
theorem retryAfter_suffices (h : (l.enforce c name s).on r = (.ok (.denied rejection), r'))
    (hreading : 0 ≤ r.clock.now) (htick : 0 ≤ r.clock.tick)
    (hnow : r.clock.now + r.clock.tick < 2 ^ 61)
    (hreset : r.clock.now + (l.policyOf name).windowNs < 2 ^ 61) :
    let p := l.policyOf name
    let key := l.keyOf c name s
    let now := r.clock.now + r.clock.tick
    let wait := rejection.retryAfter * 10 ^ 9
    (r.clock.now + p.windowNs - now - 1000 ≤ wait ∧
        wait < max 0 (r.clock.now + p.windowNs - now) + 10 ^ 9 + 1000) ∧
      ∀ (earlier later : List Operation) (o : Occasion) (ttl : Int),
        r.store = (Operation.run [] earlier).2 →
        (∀ recorded ∈ Operation.log key earlier, recorded ≤ r.clock.now) →
        (∀ q o, .check q key o ∈ later → (Operation.check q key o).isApplied = false) →
        p.keyTtl? = .ok ttl → o.delivery = .delivered →
        now + wait + 1000 ≤ o.reading → o.reading < 2 ^ 61 →
        ∃ result, (Counter.check p key o (Operation.run r'.store later).2).1 = .ok result ∧
          result.decision.allowed = true ∧ result.decision.degraded = false ∧
          result.decision.remaining = (p.maxRequests : Int) - 1 := by
  intro p key now wait
  have hpos : 0 < p.windowNs := p.windowNs_pos
  have hend : 0 ≤ r.clock.now + p.windowNs ∧ r.clock.now + p.windowNs < 2 ^ 61 :=
    ⟨by omega, hreset⟩
  have hsome : (ofInt? (r.clock.now + p.windowNs)).isSome = true :=
    ofInt?_isSome_of_lt (by rw [abs_of_nonneg hend.1]; exact hend.2)
  obtain ⟨o₁, x, ho₁, hstore, hresetAt, hx, hseconds⟩ := check_of_denied hsome h
  have hbounds : r.clock.now + p.windowNs - now - 1000 ≤ wait ∧
      wait < max 0 (r.clock.now + p.windowNs - now) + 10 ^ 9 + 1000 :=
    Decision.retryAfter_bounds hend ⟨by omega, hnow⟩ hresetAt hx hseconds
  refine ⟨hbounds, ?_⟩
  intro earlier later o ttl hearlier hlog hlater httl hdelivered hwaited hlt
  have hwindow : r.clock.now ≤ o.reading - p.windowNs := by
    have := hbounds.1
    omega
  rw [hstore, hearlier]
  exact Counter.check_of_quiet ⟨hdelivered, Counter.fits_of_lt httl (hreading.trans hwindow) hlt⟩
    (ho₁ ▸ hwindow) (fun recorded hmem => (hlog recorded hmem).trans hwindow) hlater

def strictPolicy : Policy := builtin.policyOf (some "strict")

/-- The key of a guest under the strict policy. -/
def guestKey : String := builtin.keyOf { clientIp := "10.0.0.1" } (some "strict") .ip

/-- Three requests within three seconds. -/
def burst : List Operation :=
  [.check strictPolicy guestKey ⟨1700000000000000000, 1700000000000000000, .delivered, 0⟩,
    .check strictPolicy guestKey ⟨1700000001000000000, 1700000001000000000, .delivered, 1⟩,
    .check strictPolicy guestKey ⟨1700000002000000000, 1700000002000000000, .delivered, 2⟩]

/-- The replica that meets the next request of the guest. -/
def afterBurst : Replica where
  clock := { now := 1700000003000000000, tick := 1000 }
  store := (Operation.run [] burst).2
  issuedTokens := 3
  counterClient := some .shared

/-- The seconds that a denied caller has to wait. -/
def secondsToWait? : Except Fault Verdict → Option Int
  | .ok (.denied rejection) => some rejection.retryAfter
  | _ => none

theorem denied_of_secondsToWait? {x : Except Fault Verdict × Replica} {n : Int}
    (h : secondsToWait? x.1 = some n) :
    ∃ rejection r', x = (.ok (.denied rejection), r') ∧ rejection.retryAfter = n := by
  obtain ⟨result, r'⟩ := x
  cases result with
  | error fault => cases h
  | ok verdict =>
      cases verdict with
      | passed headers => cases h
      | denied rejection => exact ⟨rejection, r', rfl, Option.some.inj h⟩

theorem afterBurst_retryAfter_suffices :
    ∃ rejection r', (builtin.enforce { clientIp := "10.0.0.1" } (some "strict") .ip).on
        afterBurst = (.ok (.denied rejection), r') ∧ rejection.retryAfter = 300 ∧
      (∀ recorded ∈ Operation.log guestKey burst, recorded ≤ 1700000003000000000) ∧
      strictPolicy.keyTtl? = .ok 360 ∧
      ∃ result, (Counter.check strictPolicy guestKey
          ⟨1700000303000002000, 1700000303000002000, .delivered, 4⟩
          (Operation.run r'.store [.inspect strictPolicy guestKey
            ⟨1700000200000000000, 1700000200000000000, .delivered, 0⟩]).2).1 = .ok result ∧
        result.decision.allowed = true ∧ result.decision.degraded = false ∧
        result.decision.remaining = 2 := by
  have hwait : secondsToWait? ((builtin.enforce { clientIp := "10.0.0.1" }
      (some "strict") .ip).on afterBurst).1 = some 300 := by decide +kernel
  have hlog : ∀ recorded ∈ Operation.log guestKey burst, recorded ≤ 1700000003000000000 := by
    decide +kernel
  have httl : strictPolicy.keyTtl? = .ok 360 := by decide +kernel
  have hwindow : strictPolicy.windowNs = 300000000000 := by decide +kernel
  obtain ⟨rejection, r', hdenied, hseconds⟩ := denied_of_secondsToWait? hwait
  obtain ⟨-, hnext⟩ := retryAfter_suffices hdenied (by decide) (by decide) (by decide)
    (show afterBurst.clock.now + strictPolicy.windowNs < 2 ^ 61 by rw [hwindow]; decide)
  refine ⟨rejection, r', hdenied, hseconds, hlog, httl, ?_⟩
  refine hnext burst _ _ 360 rfl hlog ?_ httl rfl ?_ (by decide)
  · intro q o hmem
    simp at hmem
  · rw [hseconds]
    decide

end Limiter

end RateLimit
