import RateLimit.Text.Quoted
import RateLimit.Time.Span

/-!
# Policies

A `Policy` is a named quota: at most `maxRequests` requests in any trailing
`window`. The two proof fields are what `Policy.make?` checks, so no policy is
without a request or without a window. Every identity has a key of its own under
a policy, `keyFor`, and the store keeps an idle key for `keyTtl?` seconds, which
is a little more than the window.
-/

namespace RateLimit

/-- A named quota. -/
structure Policy where
  name : String
  maxRequests : Nat
  window : Span
  keyPrefix : String
  maxRequests_pos : 0 < maxRequests := by decide
  window_pos : 0 < window.microseconds := by decide
  deriving DecidableEq, Repr

/-- Why there is no such policy. -/
inductive PolicyError where
  /-- The quota admits no request. -/
  | noRequests (name : String)
  /-- The window is empty. -/
  | emptyWindow (name : String)
  /-- A name without built-in values needs a quota and a window. -/
  | incomplete (name : String)
  /-- The policy that unknown names stand for is missing. -/
  | noDefault
  /-- The length of the window is no span. -/
  | window (cause : SpanError)
  deriving DecidableEq, Repr

/-- The wording of the error. -/
def PolicyError.message : PolicyError → String
  | .noRequests name => "Policy " ++ Text.quote name ++ ": max_requests must be at least 1"
  | .emptyWindow name => "Policy " ++ Text.quote name ++ ": window must be positive"
  | .incomplete name =>
    "New rate limit policy " ++ Text.quote name
      ++ " needs both max_requests and window_seconds"
  | .noDefault => "Policy registry requires a 'default' policy"
  | .window cause => cause.message

namespace Policy

/-- The policy with the given quota, if there is one. -/
def make? (name : String) (maxRequests : Int) (window : Span) (keyPrefix : String) :
    Except PolicyError Policy :=
  if hr : 1 ≤ maxRequests then
    if hw : 0 < window.microseconds then
      .ok {
        name, window, keyPrefix
        maxRequests := maxRequests.toNat
        maxRequests_pos := by omega
        window_pos := hw }
    else .error (.emptyWindow name)
  else .error (.noRequests name)

theorem make?_eq_ok_iff {name : String} {n : Int} {w : Span} {pre : String} {p : Policy} :
    make? name n w pre = .ok p ↔
      p.name = name ∧ (p.maxRequests : Int) = n ∧ p.window = w ∧ p.keyPrefix = pre := by
  unfold make?
  obtain ⟨pname, pmax, pwindow, pprefix, hmax, hwindow⟩ := p
  by_cases hr : 1 ≤ n
  · by_cases hw : 0 < w.microseconds
    · simp only [hr, hw, dite_true, Except.ok.injEq, Policy.mk.injEq]
      constructor
      · rintro ⟨rfl, rfl, rfl, rfl⟩
        exact ⟨rfl, by omega, rfl, rfl⟩
      · rintro ⟨rfl, rfl, rfl, rfl⟩
        exact ⟨rfl, by omega, rfl, rfl⟩
    · simp only [hr, hw, dite_true, dite_false, reduceCtorEq, false_iff]
      rintro ⟨-, -, rfl, -⟩
      exact hw hwindow
  · simp only [hr, dite_false, reduceCtorEq, false_iff]
    rintro ⟨-, h, -, -⟩
    exact hr (by omega)

/-- The length of the window in nanoseconds, the unit of the clock. -/
def windowNs (p : Policy) : Int := p.window.nanoseconds

theorem windowNs_pos (p : Policy) : 0 < p.windowNs := by
  have := p.window_pos
  unfold windowNs Span.nanoseconds
  omega

/-- How many seconds an idle key is kept: the window and a minute, rounded up. -/
def keyTtl? (p : Policy) : Except SpanError Int :=
  (p.window.add? Span.minute).map fun s => s.seconds.ceil

/-- The key of an identity. -/
def keyFor (p : Policy) (identity : String) : String := p.keyPrefix ++ identity

/-- The prefix of a policy that sets none. -/
def defaultPrefix (name : String) : String := "ratelimit:" ++ name ++ ":"

end Policy

end RateLimit
