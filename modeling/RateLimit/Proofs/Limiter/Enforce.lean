import RateLimit.Limiter
import RateLimit.Proofs.Replica.Counting
import RateLimit.Proofs.Replica.Steady

/-!
# What a limiter makes of a decision

A limiter looks up the policy, which leaves the replica `found`, and counts the request;
`enforce` then goes by the decision alone, `on_enforce`. A request that is denied was
denied by a decision that the store made, `denied_of_enforce`. What was logged before has no
say in any of this, `steady_enforce`.
-/

namespace RateLimit

open Act
open Number (Binary64)

namespace Registry

/-- The replica once the policy of a name is looked up. -/
def found (reg : Registry) (name : Option String) (r : Replica) : Replica :=
  ((reg.find name).on r).2

variable (reg : Registry) (name : Option String) (r : Replica)

theorem on_find : (reg.find name).on r = (.ok (reg.resolve name), reg.found name r) := by
  unfold found find
  split_ifs <;> rfl

theorem beside_found : Replica.Beside r (reg.found name r) := by
  have hpolicy : Replica.policyLogger ≠ Replica.counterLogger := by decide
  have hfind : (reg.find name).Aside := by
    unfold find
    split_ifs
    · exact (aside_log hpolicy).bind fun _ => aside_pure _
    · exact aside_pure _
  exact hfind r

theorem steady_ofSettings : Steady ofSettings := by
  refine steady_get_bind (fun r => ?_) fun _ _ => rfl
  exact (steady_forM (fun p => steady_log _) _).bind fun _ => steady_mk_pure _

theorem steady_find : Steady (reg.find name) := by
  unfold find
  split_ifs
  · exact (steady_log _).bind fun _ => steady_pure _
  · exact steady_pure _

end Registry

theorem Decision.headers_ne_nil {d : Decision} {headers : Headers}
    (h : d.headers = .ok headers) : headers ≠ [] := by
  unfold Decision.headers at h
  cases hreset : d.resetAt.toInt? with
  | error e =>
      rw [hreset] at h
      cases h
  | ok reset =>
      rw [hreset] at h
      cases h
      exact List.cons_ne_nil _ _

namespace Limiter

variable {l : Limiter} {c : Caller} {name : Option String} {s : Strategy} {r r₁ : Replica}
  {d : Decision}

/-- The replica once a denial is logged; a request that may pass is not logged. -/
def settled (c : Caller) (p : Policy) (key : String) (d : Decision) (r : Replica) : Replica :=
  if d.allowed then r else r.withRecord (deniedRecord c p key)

@[simp] theorem store_settled (c : Caller) (p : Policy) (key : String) (d : Decision)
    (r : Replica) : (settled c p key d r).store = r.store := by
  unfold settled
  split_ifs <;> simp

@[simp] theorem clock_settled (c : Caller) (p : Policy) (key : String) (d : Decision)
    (r : Replica) : (settled c p key d r).clock = r.clock := by
  unfold settled
  split_ifs <;> simp

/-- What happens to a request after a decision. -/
def verdict (d : Decision) : Act Verdict :=
  if d.degraded then return .passed []
  else if d.allowed then return .passed (← reportHeaders d)
  else do
    match d.retryAfter (← Replica.now) with
    | .ok seconds => return .denied ⟨d, seconds⟩
    | .error e => throw (.conversion e)

/-- The policy that a limiter counts under. -/
def policyOf (l : Limiter) (name : Option String) : Policy := l.registry.resolve name

/-- The key that a limiter counts under. -/
def keyOf (l : Limiter) (c : Caller) (name : Option String) (s : Strategy) : String :=
  c.key (l.policyOf name) s

theorem on_hit (henabled : l.enabled = true)
    (hcheck : (Replica.check l.timeout (l.policyOf name) (l.keyOf c name s)).on
      (l.registry.found name r) = (.ok d, r₁)) :
    (l.hit c name s).on r =
      (.ok (some d), settled c (l.policyOf name) (l.keyOf c name s) d r₁) := by
  unfold keyOf policyOf at *
  unfold hit
  rw [if_pos henabled, on_bind_of_ok r (l.registry.on_find name r)]
  dsimp only
  rw [on_bind_of_ok _ hcheck]
  cases h : d.allowed with
  | true => simp [settled, h]
  | false =>
      rw [settled, h]
      rfl

/-- What a limiter does with a request once the policy is found. -/
def hitUnder (l : Limiter) (c : Caller) (s : Strategy) (p : Policy) : Act (Option Decision) := do
  let decision ← Replica.check l.timeout p (c.key p s)
  if !decision.allowed then Replica.log (deniedRecord c p (c.key p s))
  return some decision

theorem on_hit_eq (henabled : l.enabled = true) (c : Caller) (name : Option String)
    (s : Strategy) (r : Replica) :
    (l.hit c name s).on r =
      (hitUnder l c s (l.registry.resolve name)).on (l.registry.found name r) := by
  unfold hit hitUnder
  rw [if_pos henabled, on_bind_of_ok r (l.registry.on_find name r)]

/-- What happens to a request depends on the decision alone. -/
theorem on_enforce (henabled : l.enabled = true)
    (hcheck : (Replica.check l.timeout (l.policyOf name) (l.keyOf c name s)).on
      (l.registry.found name r) = (.ok d, r₁)) :
    (l.enforce c name s).on r =
      (verdict d).on (settled c (l.policyOf name) (l.keyOf c name s) d r₁) := by
  unfold enforce verdict
  exact on_bind_of_ok r (on_hit henabled hcheck) _

/-- What can happen after a decision. It is final unless a number has no integer part or is
too large. -/
theorem verdict_cases (d : Decision) (r : Replica) :
    (d.degraded = true ∧ (verdict d).on r = (.ok (.passed []), r)) ∨
      (d.degraded = false ∧ d.allowed = true ∧
        ∃ headers, d.headers = .ok headers ∧ (verdict d).on r = (.ok (.passed headers), r)) ∨
      (d.degraded = false ∧ d.allowed = false ∧
        ∃ x seconds, Counter.secondsOf? r.clock.now = .ok x ∧ d.retryAfter x = .ok seconds ∧
          (verdict d).on r = (.ok (.denied ⟨d, seconds⟩), r.ticked)) ∨
      (d.degraded = false ∧ ∃ fault r', (verdict d).on r = (.error fault, r')) := by
  unfold verdict
  cases hdegraded : d.degraded with
  | true => simp
  | false =>
      cases hallowed : d.allowed with
      | true =>
          unfold reportHeaders
          cases hheaders : d.headers <;> simp
      | false =>
          cases hx : Counter.secondsOf? r.clock.now with
          | error e => simp [Replica.now, on_bind, hx]
          | ok x =>
              cases hseconds : d.retryAfter x <;>
                simp [Replica.now, on_bind, hx, hseconds]

/-- A response goes without header fields when the decision is degraded, and only then. -/
theorem verdict_eq_passed_nil_iff (d : Decision) (r : Replica) :
    ((verdict d).on r).1 = .ok (.passed []) ↔ d.degraded = true := by
  rcases verdict_cases d r with
    ⟨hdegraded, hrun⟩ | ⟨hdegraded, -, headers, hheaders, hrun⟩ |
      ⟨hdegraded, -, x, seconds, -, -, hrun⟩ | ⟨hdegraded, fault, r', hrun⟩
  · simp [hrun, hdegraded]
  · simp [hrun, hdegraded, Decision.headers_ne_nil hheaders]
  · simp [hrun, hdegraded]
  · simp [hrun, hdegraded]

theorem denied_of_verdict {rejection : Rejection} {r' : Replica}
    (h : (verdict d).on r = (.ok (.denied rejection), r')) :
    d = rejection.decision ∧ d.degraded = false ∧ d.allowed = false ∧ r' = r.ticked ∧
      ∃ x, Counter.secondsOf? r.clock.now = .ok x ∧ d.retryAfter x = .ok rejection.retryAfter := by
  rcases verdict_cases d r with
    ⟨-, hrun⟩ | ⟨-, -, headers, -, hrun⟩ |
      ⟨hdegraded, hallowed, x, seconds, hx, hseconds, hrun⟩ | ⟨-, fault, r'', hrun⟩
  · cases hrun.symm.trans h
  · cases hrun.symm.trans h
  · cases hrun.symm.trans h
    exact ⟨rfl, hdegraded, hallowed, rfl, x, hx, hseconds⟩
  · cases hrun.symm.trans h

/-- A disabled limiter lets every request pass, and nothing is counted. -/
theorem on_enforce_of_disabled (hdisabled : ¬l.enabled = true) :
    (l.enforce c name s).on r = (.ok (.passed []), r) := by
  have hhit : (l.hit c name s).on r = (.ok none, r) := by
    unfold hit
    rw [if_neg hdisabled, on_pure]
  unfold enforce
  rw [on_bind_of_ok r hhit]
  rfl

theorem enabled_of_denied {rejection : Rejection} {r' : Replica}
    (h : (l.enforce c name s).on r = (.ok (.denied rejection), r')) : l.enabled = true := by
  by_contra hdisabled
  rw [on_enforce_of_disabled hdisabled] at h
  cases h

/-- A verdict of an enabled limiter comes from a check. -/
theorem exists_check_of_enforce {v : Verdict} {r' : Replica} (henabled : l.enabled = true)
    (h : (l.enforce c name s).on r = (.ok v, r')) :
    ∃ d r₁, (Replica.check l.timeout (l.policyOf name) (l.keyOf c name s)).on
        (l.registry.found name r) = (.ok d, r₁) ∧
      (verdict d).on (settled c (l.policyOf name) (l.keyOf c name s) d r₁) = (.ok v, r') := by
  cases hcheck : (Replica.check l.timeout (l.policyOf name) (l.keyOf c name s)).on
      (l.registry.found name r) with
  | mk result r₁ =>
      cases result with
      | error fault =>
          have hhit : (l.hit c name s).on r = (.error fault, r₁) := by
            unfold hit
            rw [if_pos henabled, on_bind_of_ok r (l.registry.on_find name r)]
            exact on_bind_of_error _ hcheck _
          unfold enforce at h
          rw [on_bind_of_error r hhit] at h
          cases h
      | ok d =>
          rw [on_enforce henabled hcheck] at h
          exact ⟨d, r₁, rfl, h⟩

/-- A request is denied by a decision that the store made, and the seconds to wait are told
by a later reading of the clock. -/
theorem denied_of_enforce {rejection : Rejection} {r' : Replica}
    (h : (l.enforce c name s).on r = (.ok (.denied rejection), r')) :
    ∃ r₁ x, (Replica.check l.timeout (l.policyOf name) (l.keyOf c name s)).on
        (l.registry.found name r) = (.ok rejection.decision, r₁) ∧
      rejection.decision.degraded = false ∧ rejection.decision.allowed = false ∧
      Counter.secondsOf? r₁.clock.now = .ok x ∧
      rejection.decision.retryAfter x = .ok rejection.retryAfter ∧ r'.store = r₁.store := by
  obtain ⟨d, r₁, hcheck, hverdict⟩ := exists_check_of_enforce (enabled_of_denied h) h
  obtain ⟨rfl, hdegraded, hallowed, rfl, x, hx, hseconds⟩ := denied_of_verdict hverdict
  rw [clock_settled] at hx
  exact ⟨r₁, x, hcheck, hdegraded, hallowed, hx, hseconds, store_settled _ _ _ _ _⟩

section Steady

variable (l : Limiter) (c : Caller) (name : Option String) (s : Strategy)

theorem steady_hitUnder (p : Policy) : Steady (hitUnder l c s p) := by
  refine (Replica.steady_check l.timeout p (c.key p s)).bind fun d => ?_
  cases hallowed : d.allowed with
  | true => simpa [hallowed] using steady_pure _
  | false => simpa [hallowed] using (steady_log _).bind fun _ => steady_pure _

theorem steady_hit : Steady (l.hit c name s) := by
  unfold hit
  split_ifs
  · exact (l.registry.steady_find name).bind fun p => steady_hitUnder l c s p
  · exact steady_pure _

theorem steady_verdict (d : Decision) : Steady (verdict d) := by
  unfold verdict
  split_ifs
  · exact steady_pure _
  · unfold reportHeaders
    cases d.headers with
    | ok headers => exact (steady_pure headers).bind fun _ => steady_pure _
    | error e => exact (steady_throw _).bind fun _ => steady_pure _
  · refine Replica.steady_now.bind fun x => ?_
    cases d.retryAfter x with
    | ok seconds => exact steady_pure _
    | error e => exact steady_throw _

theorem steady_enforce : Steady (l.enforce c name s) := by
  refine (steady_hit l c name s).bind fun decision => ?_
  cases decision with
  | none => exact steady_pure _
  | some d => exact steady_verdict d

end Steady

/-- A limiter with the built-in policies, which waits a second for the store. -/
def builtin : Limiter where
  registry := Registry.defaults
  timeout := .seconds (.finite 1)

end Limiter

end RateLimit
