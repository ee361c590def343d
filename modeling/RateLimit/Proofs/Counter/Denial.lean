import RateLimit.Proofs.Counter.Ceiling

/-!
# Denials are justified

Whatever the clock does, whichever policies share a key and whichever round trips fail, a
check is denied only if the log has the quota in its window, `denied_by_log`. The store
may hold less than the log, so the converse needs the assumptions of
`run_answers_by_log`.
-/

namespace RateLimit.Counter.Operation

open Number (Binary64 ConversionError)

theorem decide_zero (p : Policy) (resetAt : Binary64) :
    (Counter.decide p 0 resetAt).allowed = true ∧
      (Counter.decide p 0 resetAt).remaining = (p.maxRequests : Int) - 1 := by
  have hpos := p.maxRequests_pos
  unfold Counter.decide
  refine ⟨decide_eq_true (by exact_mod_cast hpos), ?_⟩
  dsimp only
  omega

theorem le_of_not_allowed {p : Policy} {count : Nat} {resetAt : Binary64}
    (h : (Counter.decide p count resetAt).allowed = false) : p.maxRequests ≤ count := by
  have hle : ¬(count : Int) < p.maxRequests := of_decide_eq_false h
  exact_mod_cast Int.not_lt.mp hle

/-- What a check may answer when so many readings of the log lie in its window. It fails
only when there is no reset time. -/
structure Justified (p : Policy) (reading : Int) (count : Nat)
    (result : Except ConversionError Check) : Prop where
  fails_iff : ∀ e, result = .error e ↔ resetAt? p reading = .error e
  full_of_denied : ∀ c, result = .ok c → c.decision.allowed = false → p.maxRequests ≤ count
  free_of_zero : count = 0 → ∀ c, result = .ok c →
    c.decision.allowed = true ∧
      (c.decision.degraded = true ∨ c.decision.remaining = (p.maxRequests : Int) - 1)

/-- A check that sees no more than is there is justified. -/
theorem justified_check {p : Policy} {key : String} {o : Occasion} {s : Store} {count : Nat}
    (hfaithful : o.delivery.isFaithful = true) (hle : seen p o (Table.get? s key) ≤ count) :
    Justified p o.reading count (Counter.check p key o s).1 := by
  rcases check_cases hfaithful key s with
    ⟨e, hreset, hanswer⟩ | ⟨resetAt, fault, hreset, -, hanswer⟩ | ⟨resetAt, hreset, -, hanswer⟩
  · rw [hanswer]
    refine ⟨?_, nofun, fun _ => nofun⟩
    intro e'
    rw [hreset, Except.error.injEq, Except.error.injEq]
  · rw [hanswer]
    refine ⟨fun e => by rw [hreset]; exact ⟨nofun, nofun⟩, ?_, ?_⟩
    · rintro _ ⟨⟩ hdenied
      cases hdenied
    · rintro - _ ⟨⟩
      exact ⟨rfl, Or.inl rfl⟩
  · rw [hanswer]
    refine ⟨fun e => by rw [hreset]; exact ⟨nofun, nofun⟩, ?_, ?_⟩
    · rintro _ ⟨⟩ hdenied
      exact (le_of_not_allowed hdenied).trans hle
    · rintro rfl _ ⟨⟩
      rw [Nat.le_zero.mp hle]
      obtain ⟨hallowed, hremaining⟩ := decide_zero p resetAt
      exact ⟨hallowed, Or.inr hremaining⟩

/-- On any run from the empty store, a check is denied only if at least the quota of the
checks on its key that were applied since the key was last cleared lie in its window,
and is allowed with the quota less one to spare, or degraded, if none does. -/
theorem denied_by_log {ops : List Operation} {i : Nat} {p : Policy} {key : String}
    {o : Occasion} (hop : ops[i]? = some (.check p key o))
    (hfaithful : o.delivery.isFaithful = true) :
    ∃ result, (run [] ops).1[i]? = some (.checked result) ∧
      Justified p o.reading ((log key (ops.take i)).countP (inWindow p o.reading)) result := by
  have hseen := seen_le_countP p key o (ops.take i)
  exact ⟨_, getElem?_run hop [], justified_check hfaithful hseen⟩

/-- Whether an outcome is that of a check that was not allowed. -/
def isDenial : Outcome → Bool
  | .checked (.ok c) => !c.decision.allowed
  | _ => false

/-- The clock goes back, and two policies share a key. -/
def unsteadyRun : List Operation :=
  [.check narrowPolicy "shared" (sampleOccasion 5000000000 .delivered 0),
    .check samplePolicy "shared" (sampleOccasion 1000000000 (.lost (.timeout "")) 1),
    .check narrowPolicy "shared" (sampleOccasion 2000000000 .delivered 2),
    .clear "shared" (sampleOccasion 2000000000 .delivered 3),
    .check narrowPolicy "shared" (sampleOccasion 2500000000 .delivered 4)]

/-- The third check is denied because of a reading that its clock has yet to come to. -/
theorem unsteadyRun_denied_by_log :
    unsteadyRun[2]? =
        some (.check narrowPolicy "shared" (sampleOccasion 2000000000 .delivered 2)) ∧
      log "shared" (unsteadyRun.take 2) = [5000000000, 1000000000] ∧
      ∃ result, (run [] unsteadyRun).1[2]? = some (.checked result) ∧
        Justified narrowPolicy 2000000000 1 result ∧
        ∃ c, result = .ok c ∧ c.decision.allowed = false := by
  have hlog : log "shared" (unsteadyRun.take 2) = [5000000000, 1000000000] := by decide +kernel
  have hcount : ([5000000000, 1000000000] : List Int).countP
      (inWindow narrowPolicy 2000000000) = 1 := by decide +kernel
  have hop : unsteadyRun[2]? =
      some (.check narrowPolicy "shared" (sampleOccasion 2000000000 .delivered 2)) := rfl
  obtain ⟨result, hresult, hjustified⟩ := denied_by_log hop rfl
  have hdenied : (run [] unsteadyRun).1[2]?.any isDenial = true := by decide +kernel
  rw [hresult] at hdenied
  rw [hlog] at hjustified
  refine ⟨hop, hlog, result, hresult, hcount ▸ hjustified, ?_⟩
  cases result with
  | error e => cases hdenied
  | ok c => exact ⟨c, rfl, by simpa [isDenial] using hdenied⟩

end RateLimit.Counter.Operation
