import RateLimit.Proofs.Limiter.Enforce

/-!
# A limiter that fails open

A check yields a decision whatever becomes of its round trip. When the round trip fails,
or when its reply holds no count, the decision lets the request pass and leaves the quota
whole, `Decision.FailsOpen`, and the counter logs one record that names the policy and the
key, `Log.Record.Reports`. Otherwise the count decides, `Decision.Decides`. A quota that is
still whole is the mark of a check that failed open, since a request that is counted
takes one from it. `checkThrough_fails_open` puts this together, and adds what a limiter
makes of it: a response goes without header fields when the check failed open.
-/

namespace RateLimit

open Act Counter
open Number (Binary64)

namespace Decision

/-- A decision that lets a request pass which was not counted. -/
structure FailsOpen (d : Decision) (p : Policy) : Prop where
  allowed : d.allowed = true
  degraded : d.degraded = true
  limit_eq : d.limit = p.maxRequests
  remaining_eq : d.remaining = p.maxRequests

/-- A decision on a count. -/
structure Decides (d : Decision) (p : Policy) (count : Int) : Prop where
  degraded : d.degraded = false
  limit_eq : d.limit = p.maxRequests
  allowed_iff : d.allowed = true ↔ count < d.limit
  remaining_eq : d.remaining = max 0 (d.limit - count - 1)

variable {d : Decision} {p : Policy} {count : Int}

theorem failsOpen_failOpen (p : Policy) (resetAt : Binary64) :
    (failOpen p resetAt).FailsOpen p := ⟨rfl, rfl, rfl, rfl⟩

theorem decides_decide (p : Policy) (count : Int) (resetAt : Binary64) :
    (decide p count resetAt).Decides p count :=
  ⟨rfl, rfl, decide_eq_true_iff, rfl⟩

theorem Decides.remaining_of_denied (h : d.Decides p count) (hdenied : d.allowed = false) :
    d.remaining = 0 := by
  have hcount : ¬ count < d.limit := by
    rw [← h.allowed_iff, hdenied]
    exact Bool.false_ne_true
  rw [h.remaining_eq]
  omega

/-- A request that is counted takes one from the quota. -/
theorem Decides.remaining_lt_limit (h : d.Decides p count) (hcount : 0 ≤ count) :
    d.remaining < d.limit := by
  have hpos := p.maxRequests_pos
  rw [h.remaining_eq, h.limit_eq]
  omega

end Decision

namespace Log.Record

/-- The counter's record of a check that failed open. -/
structure Reports (record : Record) (p : Policy) (key : String) : Prop where
  level_eq : record.level = Log.error
  logger_eq : record.logger = Replica.counterLogger
  policy_eq : record.attribute? "policy" = some (.text p.name)
  key_eq : record.attribute? "rate_limit_key" = some (.text key)

theorem reports_degradedRecord (p : Policy) (key : String) (fault : Fault)
    (bound : Option String) :
    ((Replica.degradedRecord p key fault).withContext bound).Reports p key where
  level_eq := level_withContext _ _
  logger_eq := logger_withContext _ _
  policy_eq := attribute?_withContext_of_some (by decide) rfl bound
  key_eq := attribute?_withContext_of_some (by decide) rfl bound

end Log.Record

namespace Replica

/-- What the client does about the round trip of a check. -/
def clientOutcome (trip : Entry → Act Delivery) (r : Replica) : Except Fault Delivery :=
  ((trip ⟨r.clock.now, r.issuedTokens⟩).on r.ticked.drawn).1

/-- What the round trip of a check brings. -/
def received (timeout : Timeout) (trip : Entry → Act Delivery) (p : Policy) (key : String)
    (r : Replica) : Except Fault Json :=
  (roundTrip p key (occasionOf timeout trip r) r.store).1

theorem received_of_clientOutcome_error {trip : Entry → Act Delivery} {r : Replica}
    {fault : Fault} (h : clientOutcome trip r = .error fault) (timeout : Timeout)
    (p : Policy) (key : String) : ∃ fault, received timeout trip p key r = .error fault := by
  apply roundTrip_of_not_applies
  change (deliveryOf timeout r.pace (clientOutcome trip r)).applies = false
  rw [h]
  exact applies_deliveryOf_error timeout r.pace fault

theorem exists_report (p : Policy) (key : String) (r : Replica) (fault : Fault) :
    ∃ record : Log.Record, record.Reports p key ∧
      reported r p key (some fault) =
        if Log.isEnabled r.settings Log.error then [record] else [] :=
  ⟨_, Log.Record.reports_degradedRecord p key fault r.boundId, rfl⟩

/-- A check always yields a decision, whatever the client does about its round trip, as long
as it leaves alone what counting is about. The check fails open, and is reported once, unless
the round trip brings a count, which then decides. A limiter adds no header fields to a
response exactly if the check failed open. -/
theorem checkThrough_fails_open :
    (∀ (timeout : Timeout) (trip : Entry → Act Delivery) (p : Policy) (key : String)
      (r : Replica),
      (∀ entry, (trip entry).Aside) →
      (Binary64.ofInt? (r.clock.now + p.windowNs)).isSome = true →
      ∃ d r', (checkThrough timeout trip p key).on r = (.ok d, r') ∧
        (∀ fault, clientOutcome trip r = .error fault →
          ∃ fault, received timeout trip p key r = .error fault) ∧
        ((¬ ∃ reply count, received timeout trip p key r = .ok reply ∧
            Reply.count? reply = .ok count) →
          d.FailsOpen p ∧ ∃ record : Log.Record, record.Reports p key ∧
            r'.counterRecords = r.counterRecords ++
              if Log.isEnabled r.settings Log.error then [record] else []) ∧
        ∀ reply count, received timeout trip p key r = .ok reply →
          Reply.count? reply = .ok count →
          d.Decides p count ∧ r'.counterRecords = r.counterRecords ∧
            (0 ≤ count →
              (d.allowed = false → d.remaining = 0) ∧ d.remaining ≠ d.limit)) ∧
    ∀ (l : Limiter) (c : Caller) (name : Option String) (s : Strategy) (r : Replica),
      l.enabled = true →
      (Binary64.ofInt? (r.clock.now + (l.policyOf name).windowNs)).isSome = true →
      ∃ d r', (check l.timeout (l.policyOf name) (l.keyOf c name s)).on
          (l.registry.found name r) = (.ok d, r') ∧
        (((l.enforce c name s).on r).1 = .ok (.passed []) ↔ d.degraded = true) := by
  refine ⟨fun timeout trip p key r htrip hreset => ?_, fun l c name s r henabled hreset => ?_⟩
  · obtain ⟨resetAt, hresetAt⟩ := resetAt?_eq_ok_of_isSome hreset
    obtain ⟨r', hrun, -, -, hrecords⟩ := on_checkThrough htrip hresetAt key
    refine ⟨_, r', hrun, fun fault h => received_of_clientOutcome_error h timeout p key,
      fun hnone => ?_, fun reply count hreply hcount => ?_⟩
    · obtain ⟨fault, hfault⟩ := countOf_eq_error_of_not hnone
      rw [received] at hfault
      rw [hfault] at hrecords ⊢
      obtain ⟨record, hreports, hreported⟩ := exists_report p key r fault
      refine ⟨Decision.failsOpen_failOpen p resetAt, record, hreports, ?_⟩
      rw [hrecords, ← hreported]
      rfl
    · have hcountOf := countOf_eq_ok_iff.mpr ⟨reply, hreply, hcount⟩
      rw [received] at hcountOf
      rw [hcountOf] at hrecords ⊢
      have hdecides := Decision.decides_decide p count resetAt
      exact ⟨hdecides, hrecords.trans (List.append_nil _),
        fun hnonneg => ⟨hdecides.remaining_of_denied, (hdecides.remaining_lt_limit hnonneg).ne⟩⟩
  · have hfound : (l.registry.found name r).clock = r.clock :=
      (l.registry.beside_found name r).clock_eq
    rw [← hfound] at hreset
    obtain ⟨resetAt, hresetAt⟩ := resetAt?_eq_ok_of_isSome hreset
    obtain ⟨-, result, r', -, -, hrun, -⟩ :=
      exists_on_check l.timeout hresetAt (l.keyOf c name s)
    refine ⟨result.decision, r', hrun, ?_⟩
    rw [Limiter.on_enforce henabled hrun]
    exact Limiter.verdict_eq_passed_nil_iff _ _

/-- A client that cannot be had. -/
def brokenTrip (_ : Entry) : Act Delivery := throw (.runtime "no client")

theorem brokenTrip_fails_open :
    let p := Registry.defaults.fallback
    let caller : Caller := { clientIp := "10.0.0.1" }
    let r : Replica := { disruptions := [{ effect := .hangs }] }
    (∀ entry, (brokenTrip entry).Aside) ∧
      (Binary64.ofInt? (r.clock.now + p.windowNs)).isSome = true ∧
      (∃ d r', (checkThrough Limiter.builtin.timeout brokenTrip p "feed:a").on r = (.ok d, r') ∧
        d.FailsOpen p ∧
        ∃ record : Log.Record, record.Reports p "feed:a" ∧ r'.counterRecords = [record]) ∧
      Limiter.builtin.enabled = true ∧ Limiter.builtin.policyOf none = p ∧
      ∃ d r', (check Limiter.builtin.timeout p (Limiter.builtin.keyOf caller none .ip)).on
          (Limiter.builtin.registry.found none r) = (.ok d, r') ∧
        (((Limiter.builtin.enforce caller none .ip).on r).1 = .ok (.passed []) ↔
          d.degraded = true) := by
  intro p caller r
  have haside : ∀ entry, (brokenTrip entry).Aside := fun _ => aside_throw _
  have hreset : (Binary64.ofInt? (r.clock.now + p.windowNs)).isSome = true := by
    decide +kernel
  have hraises : clientOutcome brokenTrip r = .error (.runtime "no client") := rfl
  have hlevel : Log.isEnabled r.settings Log.error = true := by decide +kernel
  obtain ⟨hchecks, henforces⟩ := checkThrough_fails_open
  obtain ⟨d, r', hrun, hraised, hopen, -⟩ :=
    hchecks Limiter.builtin.timeout brokenTrip p "feed:a" r haside hreset
  obtain ⟨fault, hfault⟩ := hraised _ hraises
  have hnone : ¬ ∃ reply count,
      received Limiter.builtin.timeout brokenTrip p "feed:a" r = .ok reply ∧
        Reply.count? reply = .ok count := by
    rw [hfault]
    rintro ⟨reply, count, hreply, -⟩
    cases hreply
  obtain ⟨hfails, record, hreports, hrecords⟩ := hopen hnone
  rw [if_pos hlevel] at hrecords
  exact ⟨haside, hreset, ⟨d, r', hrun, hfails, record, hreports, hrecords⟩, rfl, rfl,
    henforces Limiter.builtin caller none .ip r rfl hreset⟩

end Replica

end RateLimit
