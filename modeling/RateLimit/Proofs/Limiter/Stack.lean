import RateLimit.Proofs.Limiter.Enforce
import RateLimit.Proofs.Number.Error
import RateLimit.Proofs.Replica.Traffic

/-!
# Stacks of limits

Several limits on one request are judged one after the other, up to the first that denies
it: `Judges`. Each of them counts the request once, under a key of its own, `Counts`. As long
as the clock shows machine numbers, `Clock.Fits`, every stack is judged, `exists_judges`, and
every decision can be put into words: it has header fields, and a denial has a time to
wait.
-/

namespace RateLimit

open Act
open Number (Binary64 roundBinary twoPow twoPow_add)
open Number.Binary64

/-- Whether the next readings of a clock, and the ends of windows that begin with them, are
machine numbers. -/
def Clock.Fits (clock : Clock) (n : Nat) (windows : List Int) : Prop :=
  ∀ i : Nat, i ≤ n → ∀ w ∈ 0 :: windows,
    (ofInt? (clock.now + i * clock.tick + w)).isSome = true

namespace Clock.Fits

variable {clock : Clock} {n : Nat} {w : Int} {windows : List Int}

theorem reading (h : clock.Fits n windows) : (ofInt? clock.now).isSome = true := by
  simpa using h 0 (Nat.zero_le n) 0 List.mem_cons_self

theorem head (h : clock.Fits n (w :: windows)) :
    (ofInt? (clock.now + w)).isSome = true := by
  simpa using h 0 (Nat.zero_le n) w (List.mem_cons_of_mem _ List.mem_cons_self)

theorem next {r : Replica} (h : r.clock.Fits (n + 1) (w :: windows)) :
    r.ticked.clock.Fits n windows := by
  intro i hi v hv
  have hmem : v ∈ 0 :: w :: windows := by
    rcases List.mem_cons.mp hv with rfl | hv
    · exact List.mem_cons_self
    · exact List.mem_cons_of_mem _ (List.mem_cons_of_mem _ hv)
  have hlater := h (i + 1) (Nat.succ_le_succ hi) v hmem
  have hreading : r.clock.now + ((i + 1 : Nat) : Int) * r.clock.tick =
      r.clock.now + r.clock.tick + i * r.clock.tick := by
    push_cast
    ring
  rwa [hreading] at hlater

end Clock.Fits

namespace Counter

theorem secondsOf?_of_isSome {n : Int} (h : (ofInt? n).isSome = true) :
    ∃ x, secondsOf? n = .ok x := by
  obtain ⟨x, hx⟩ := Option.isSome_iff_exists.mp h
  refine ⟨x.divNat 1000000000, ?_⟩
  unfold secondsOf?
  rw [ofInt_eq_ok_iff.mpr hx]
  rfl

/-- Seconds are far from the bound of the machine numbers, since nanoseconds are below it. -/
theorem toRat?_of_secondsOf? {n : Int} {x : Binary64} (h : secondsOf? n = .ok x) :
    ∃ q : Rat, x.toRat? = some q ∧ |q| < twoPow 1000 := by
  unfold secondsOf? at h
  cases hn : ofInt n with
  | error e =>
      rw [hn] at h
      cases h
  | ok y =>
      have hy := ofInt_eq_ok_iff.mp hn
      have hbound : |roundBinary n| < twoPow 999 * twoPow 25 := by
        rw [← twoPow_add]
        exact ofInt?_isSome_iff.mp (by rw [hy]; rfl)
      have hsmall : |roundBinary n / (1000000000 : Nat)| < twoPow 999 := by
        have hpos : (0 : Rat) < twoPow 999 := Number.twoPow_pos _
        rw [abs_div, div_lt_iff₀ (by norm_num)]
        refine hbound.trans_le ?_
        gcongr
        norm_num [twoPow]
      unfold ofInt? at hy
      split_ifs at hy
      cases hy
      rw [hn] at h
      cases h
      exact ⟨_, toRat?_ofRat_of_lt (hsmall.trans_le (Number.twoPow_le_twoPow (by norm_num))),
        abs_roundBinary_lt (by norm_num) hsmall⟩

end Counter

namespace Decision

variable {d : Decision} {m n : Int} {x : Binary64}

theorem exists_headers (hreset : Counter.secondsOf? m = .ok d.resetAt) :
    ∃ headers, d.headers = .ok headers := by
  obtain ⟨q, hq, -⟩ := Counter.toRat?_of_secondsOf? hreset
  unfold headers
  rw [toInt?_of_toRat? hq]
  exact ⟨_, rfl⟩

theorem exists_retryAfter (hreset : Counter.secondsOf? m = .ok d.resetAt)
    (hnow : Counter.secondsOf? n = .ok x) : ∃ seconds, d.retryAfter x = .ok seconds := by
  obtain ⟨a, ha, hsmall⟩ := Counter.toRat?_of_secondsOf? hreset
  obtain ⟨b, hb, hsmall'⟩ := Counter.toRat?_of_secondsOf? hnow
  have hdiff : |a - b| < twoPow 1023 := by
    have hdouble : twoPow 1000 + twoPow 1000 ≤ twoPow 1023 := by
      rw [show (1023 : Int) = 1000 + 23 from rfl, twoPow_add]
      have hpos := Number.twoPow_pos 1000
      have hlarge : (2 : Rat) ≤ twoPow 23 := by norm_num [twoPow]
      nlinarith
    exact (abs_sub a b).trans_lt ((add_lt_add hsmall hsmall').trans_le hdouble)
  have hceil := ceil?_of_toRat? (toRat?_sub_of_lt ha hb hdiff)
  unfold retryAfter
  rw [hceil]
  exact ⟨_, rfl⟩

/-- The header fields that decisions leave on a response: those of the last one that the
store made, and none if it made none. -/
def Shown (ds : List Decision) (headers : Headers) : Prop :=
  match (ds.filter fun d => !d.degraded).getLast? with
  | some d => d.headers = .ok headers
  | none => headers = []

variable {ds : List Decision} {headers : Headers}

theorem shown_nil : Shown [] [] := rfl

theorem Shown.concat_of_degraded (h : Shown ds headers) (hdegraded : d.degraded = true) :
    Shown (ds ++ [d]) headers := by
  unfold Shown at h ⊢
  rwa [List.filter_append, List.filter_singleton, hdegraded, Bool.not_true,
    cond_false, List.append_nil]

theorem shown_concat (ds : List Decision) (hdegraded : d.degraded = false)
    (h : d.headers = .ok headers) : Shown (ds ++ [d]) headers := by
  unfold Shown
  rw [List.filter_append, List.filter_singleton, hdegraded, Bool.not_false,
    List.getLast?_append]
  exact h

end Decision

namespace Registry

variable (reg : Registry) (name : Option String) (r : Replica)

/-- A look-up does nothing but log a name that is not in the table. -/
theorem found_eq : reg.found name r =
    if (reg.lookup? name).isNone then r.withRecord (unknownRecord name) else r := by
  unfold found find
  split_ifs <;> rfl

end Registry

namespace RouteLimit

/-- The policy that a limiter counts a limit under. -/
def policy (limit : RouteLimit) (l : Limiter) : Policy := l.policyOf (some limit.policyName)

/-- The key that a limiter counts a caller under for a limit. -/
def key (limit : RouteLimit) (l : Limiter) (c : Caller) : String :=
  l.keyOf c (some limit.policyName) limit.strategy

end RouteLimit

namespace Limiter

/-- One limit counts a caller, once and under the key of the limit. -/
structure Counts (l : Limiter) (c : Caller) (limit : RouteLimit) (r : Replica) (d : Decision)
    (r' : Replica) : Prop extends
    Replica.CountsOnce (limit.policy l) (limit.key l c) r d r' where
  hit_eq : (l.hit c (some limit.policyName) limit.strategy).on r = (.ok (some d), r')

/-- Limits judge a caller one after the other, up to the first that denies it. -/
inductive Judges (l : Limiter) (c : Caller) :
    Replica → List RouteLimit → List Decision → Replica → Prop where
  | done (r : Replica) : Judges l c r [] [] r
  | passed {limit : RouteLimit} {rest : List RouteLimit} {r r' r'' : Replica} {d : Decision}
      {ds : List Decision} (counts : Counts l c limit r d r') (hallowed : d.allowed = true)
      (later : Judges l c r' rest ds r'') : Judges l c r (limit :: rest) (d :: ds) r''
  | denied {limit : RouteLimit} {rest : List RouteLimit} {r r' : Replica} {d : Decision}
      (counts : Counts l c limit r d r') (hallowed : d.allowed = false) :
      Judges l c r (limit :: rest) [d] r'

variable {l : Limiter} {c : Caller} {limit : RouteLimit} {limits : List RouteLimit}
  {r r' : Replica} {d : Decision} {ds : List Decision}

theorem exists_counts (henabled : l.enabled = true) (c : Caller)
    (hreset : (ofInt? (r.clock.now + (limit.policy l).windowNs)).isSome = true) :
    ∃ d r', Counts l c limit r d r' := by
  have hclock := (l.registry.beside_found (some limit.policyName) r).clock_eq
  obtain ⟨resetAt, hresetAt⟩ := Counter.resetAt?_eq_ok_of_isSome hreset
  rw [← hclock] at hresetAt
  obtain ⟨d, r₁, hrun, hcounts⟩ :=
    Replica.exists_countsOnce l.timeout hresetAt (limit.key l c)
  have hfound : Replica.Alike (l.registry.found (some limit.policyName) r) r := by
    rw [Registry.found_eq]
    split_ifs
    · exact (Replica.Alike.withRecord r _).symm
    · exact .refl r
  have hsettled : Replica.Alike r₁ (settled c (limit.policy l) (limit.key l c) d r₁) := by
    unfold settled
    split_ifs
    · exact .refl r₁
    · exact .withRecord r₁ _
  exact ⟨d, _, hcounts.of_alike hfound hsettled, on_hit henabled hrun⟩

/-- The reset time is a number of seconds, and only the store denies. -/
theorem Counts.decision (h : Counts l c limit r d r') :
    (∃ m, Counter.secondsOf? m = .ok d.resetAt) ∧ (d.degraded = true → d.allowed = true) := by
  obtain ⟨o, result, -, -, hcheck, rfl⟩ := h.check_eq
  obtain ⟨hreset, hallowed⟩ := Counter.check_inv hcheck
  exact ⟨⟨_, hreset⟩, hallowed⟩

/-- What is counted decides what happens to the request. -/
theorem Counts.on_enforce (h : Counts l c limit r d r') :
    (l.enforce c (some limit.policyName) limit.strategy).on r = (verdict d).on r' := by
  unfold enforce verdict
  exact on_bind_of_ok r h.hit_eq _

theorem Counts.on_verdict_of_allowed (h : Counts l c limit r d r') (hallowed : d.allowed = true) :
    ∃ headers, Decision.Shown [d] headers ∧
      (verdict d).on r' = (.ok (.passed headers), r') := by
  obtain ⟨⟨m, hreset⟩, -⟩ := h.decision
  obtain ⟨headers, hheaders⟩ := Decision.exists_headers hreset
  unfold verdict reportHeaders
  cases hdegraded : d.degraded with
  | true => exact ⟨[], Decision.shown_nil.concat_of_degraded hdegraded, by simp⟩
  | false =>
      refine ⟨headers, Decision.shown_concat [] hdegraded hheaders, ?_⟩
      simp [hallowed, hheaders]

theorem Counts.on_verdict_of_denied (h : Counts l c limit r d r') (hdenied : d.allowed = false)
    {x : Binary64} (hnow : Counter.secondsOf? r'.clock.now = .ok x) :
    ∃ seconds, d.retryAfter x = .ok seconds ∧
      (verdict d).on r' = (.ok (.denied ⟨d, seconds⟩), r'.ticked) := by
  obtain ⟨⟨m, hreset⟩, hdegraded⟩ := h.decision
  obtain ⟨seconds, hseconds⟩ := Decision.exists_retryAfter hreset hnow
  have hcounted : d.degraded = false := by
    rw [← Bool.not_eq_true]
    intro htrue
    rw [hdegraded htrue] at hdenied
    cases hdenied
  refine ⟨seconds, hseconds, ?_⟩
  unfold verdict
  simp [hcounted, hdenied, Replica.now, on_bind, hnow, hseconds]

/-- What was logged before has no say in a decision. -/
theorem Counts.on_alike {s : Replica} (h : Counts l c limit r d r') (hr : Replica.Alike r s) :
    ∃ s', Replica.Alike r' s' ∧ Counts l c limit s d s' := by
  obtain ⟨result, r'', s', hrun, hrun', hleft, -⟩ :=
    (l.steady_hit c (some limit.policyName) limit.strategy).on_alike hr
  cases hrun.symm.trans h.hit_eq
  exact ⟨s', hleft, h.of_alike hr hleft, hrun'⟩

/-- Every stack is judged while the clock shows machine numbers. -/
theorem exists_judges (henabled : l.enabled = true) (c : Caller) (limits : List RouteLimit)
    {r : Replica}
    (hfits : r.clock.Fits limits.length (limits.map fun limit => (limit.policy l).windowNs)) :
    ∃ ds r', Judges l c r limits ds r' := by
  induction limits generalizing r with
  | nil => exact ⟨[], r, .done r⟩
  | cons limit rest ih =>
      obtain ⟨d, r', hcounts⟩ := exists_counts henabled c hfits.head
      cases hallowed : d.allowed with
      | false => exact ⟨[d], r', .denied hcounts hallowed⟩
      | true =>
          have hnext := hfits.next
          rw [← hcounts.clock_eq] at hnext
          obtain ⟨ds, r'', hlater⟩ := ih hnext
          exact ⟨d :: ds, r'', .passed hcounts hallowed hlater⟩

namespace Judges

variable (h : Judges l c r limits ds r')

include h

theorem settings_eq : r'.settings = r.settings := by
  induction h with
  | done r => rfl
  | passed hcounts hallowed hlater ih => exact ih.trans hcounts.settings_eq
  | denied hcounts hallowed => exact hcounts.settings_eq

/-- A stack that does not deny is judged to its end. -/
theorem length_eq (hallowed : ∀ d ∈ ds, d.allowed = true) : ds.length = limits.length := by
  induction h with
  | done r => rfl
  | passed hcounts _ hlater ih =>
      exact congrArg Nat.succ (ih fun d hd => hallowed d (List.mem_cons_of_mem _ hd))
  | denied hcounts hdenied =>
      rw [hallowed _ List.mem_cons_self] at hdenied
      cases hdenied

theorem exists_secondsOf?
    (hfits : r.clock.Fits limits.length (limits.map fun limit => (limit.policy l).windowNs)) :
    ∃ x, Counter.secondsOf? r'.clock.now = .ok x := by
  induction h with
  | done r => exact Counter.secondsOf?_of_isSome hfits.reading
  | passed hcounts hallowed hlater ih => exact ih (hcounts.clock_eq ▸ hfits.next)
  | denied hcounts hallowed =>
      exact Counter.secondsOf?_of_isSome (hcounts.clock_eq ▸ hfits.next).reading

/-- What was logged before has no say in the decisions. -/
theorem on_alike {s : Replica} (hr : Replica.Alike r s) :
    ∃ s', Replica.Alike r' s' ∧ Judges l c s limits ds s' := by
  induction h generalizing s with
  | done r => exact ⟨s, hr, .done s⟩
  | passed hcounts hallowed hlater ih =>
      obtain ⟨s₁, hs₁, hcounts'⟩ := hcounts.on_alike hr
      obtain ⟨s₂, hs₂, hlater'⟩ := ih hs₁
      exact ⟨s₂, hs₂, .passed hcounts' hallowed hlater'⟩
  | denied hcounts hallowed =>
      obtain ⟨s₁, hs₁, hcounts'⟩ := hcounts.on_alike hr
      exact ⟨s₁, hs₁, .denied hcounts' hallowed⟩

end Judges

end Limiter

end RateLimit
