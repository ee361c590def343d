import RateLimit.Proofs.Counter.Retention

/-!
# The counter is a sliding log

The ideal counter keeps the log of every key for ever and counts what lies in the
window of a reading. `Answers` says what it answers, by the log alone. The theorem
`run_answers_by_log` says that the counter answers the same on every run with a clock that
never goes back, although the store trims, expires and deletes.
-/

namespace RateLimit.Counter

open Number (Binary64)

/-- What an operation answers when the readings in `log` were recorded under its key. -/
inductive Answers (log : List Int) : Operation → Outcome → Prop
  /-- The reply to a check arrives: the count decides. -/
  | counted {p : Policy} {key : String} {o : Occasion} {count : Nat} {resetAt : Binary64} :
      IsCounted p o → count = log.countP (inWindow p o.reading) →
      resetAt? p o.reading = .ok resetAt →
        Answers log (.check p key o) (.checked (.ok { decision := {
          allowed := Decidable.decide ((count : Int) < p.maxRequests)
          limit := p.maxRequests
          remaining := max 0 ((p.maxRequests : Int) - count - 1)
          resetAt := resetAt
          degraded := false } }))
  /-- It does not: the request passes. -/
  | degraded {p : Policy} {key : String} {o : Occasion} {fault : Fault}
      {resetAt : Binary64} :
      ¬IsCounted p o → resetAt? p o.reading = .ok resetAt →
        Answers log (.check p key o)
          (.checked (.ok { decision := failOpen p resetAt, cause := some fault }))
  /-- There is no reset time to report. -/
  | untold {p : Policy} {key : String} {o : Occasion} {e : Number.ConversionError} :
      resetAt? p o.reading = .error e →
        Answers log (.check p key o) (.checked (.error e))
  | inspected {p : Policy} {key : String} {o : Occasion} {count : Nat}
      {resetAt : Binary64} :
      IsInspected p o → count = log.countP (inWindow p o.reading) →
      resetAt? p o.reading = .ok resetAt →
        Answers log (.inspect p key o) (.inspected (.ok ⟨count, resetAt⟩))
  | unavailable {p : Policy} {key : String} {o : Occasion} {fault : Fault} :
      ¬IsInspected p o → Answers log (.inspect p key o) (.inspected (.error fault))
  /-- There may be no window left although there is a log. -/
  | cleared {key : String} {o : Occasion} {found : Bool} :
      o.delivery = .delivered → (found = true → log ≠ []) →
        Answers log (.clear key o) (.cleared (.ok found))
  | uncleared {key : String} {o : Occasion} {fault : Fault} :
      o.delivery ≠ .delivered → Answers log (.clear key o) (.cleared (.error fault))

namespace Operation

theorem getElem?_run {ops : List Operation} {i : Nat} {op : Operation}
    (h : ops[i]? = some op) (s : Store) :
    (run s ops).1[i]? = some (op.apply (run s (ops.take i)).2).1 := by
  induction ops generalizing s i with
  | nil => cases h
  | cons first rest ih =>
      cases i with
      | zero =>
          cases h
          rfl
      | succ i =>
          rw [List.getElem?_cons_succ] at h
          rw [run_cons, List.getElem?_cons_succ, ih h, List.take_succ_cons, run_cons]

theorem take_append_sublist {ops : List Operation} {i : Nat} {op : Operation}
    (h : ops[i]? = some op) : (ops.take i ++ [op]).Sublist ops := by
  have htake : ops.take (i + 1) = ops.take i ++ [op] := by
    rw [List.take_add_one, h]
    rfl
  rw [← htake]
  exact List.take_sublist _ _

theorem answers_check {log : List Int} {p : Policy} {key : String} {o : Occasion}
    {s : Store} (hfaithful : o.delivery.isFaithful = true)
    (hseen : seen p o (Table.get? s key) = log.countP (inWindow p o.reading)) :
    Answers log (.check p key o) (.checked (Counter.check p key o s).1) := by
  rcases check_cases hfaithful key s with
    ⟨e, hreset, hanswer⟩ | ⟨resetAt, fault, hreset, hcounted, hanswer⟩ |
      ⟨resetAt, hreset, hcounted, hanswer⟩
  · rw [hanswer]
    exact Answers.untold hreset
  · rw [hanswer]
    exact Answers.degraded hcounted hreset
  · rw [hanswer]
    exact Answers.counted hcounted hseen hreset

theorem answers_inspect {log : List Int} {p : Policy} {key : String} {o : Occasion}
    {s : Store} (hfaithful : o.delivery.isFaithful = true)
    (hseen : seen p o (Table.get? s key) = log.countP (inWindow p o.reading)) :
    Answers log (.inspect p key o) (.inspected (Counter.inspect p key o s).1) := by
  rcases inspect_cases hfaithful key s with
    ⟨fault, hinspected, hanswer⟩ | ⟨resetAt, hreset, hinspected, hanswer⟩
  · rw [hanswer]
    exact Answers.unavailable hinspected
  · rw [hanswer]
    exact Answers.inspected hinspected hseen hreset

theorem answers_clear {log : List Int} {key : String} {o : Occasion} {s : Store}
    (hfaithful : o.delivery.isFaithful = true)
    (hfound : (Window.at? o.time (Table.get? s key)).isSome = true → log ≠ []) :
    Answers log (.clear key o) (.cleared (Counter.clear key o s).1) := by
  rcases clear_cases hfaithful key s with ⟨hdelivery, fault, hanswer⟩ | ⟨hdelivery, hanswer⟩
  · rw [hanswer]
    exact Answers.uncleared hdelivery
  · rw [hanswer]
    exact Answers.cleared hdelivery hfound

/-- What a run sees at an operation that reads the clock. -/
theorem seen_take {ops : List Operation} (hclock : InStep ops) (hpolicy : OnePolicy ops)
    (hmembers : DistinctMembers ops) {i : Nat} {op : Operation} (hop : ops[i]? = some op)
    (hreads : op.readsClock = true) {p : Policy} (hp : p ∈ op.policy?) :
    seen p op.occasion (windowOf op.key (ops.take i)) =
      (log op.key (ops.take i)).countP (inWindow p op.occasion.reading) := by
  have hsub := take_append_sublist hop
  have hprefix : (ops.take i).Sublist ops := List.take_sublist _ _
  have hlast : InStep (ops.take i ++ [op]) := List.Pairwise.sublist hsub hclock
  have honly := hpolicy.usesOnly (hsub.subset (by simp)) hp
  exact seen_eq_countP (List.Pairwise.sublist hprefix hclock) (hmembers.sublist hprefix)
    (honly.sublist hprefix) (hlast.before hreads)

/-- On a run from the empty store with a clock that never goes back, one policy for
each key and members that are written once, every operation answers what the ideal
counter answers that never forgets a reading, and a check is counted against exactly
the readings of the log that lie in its window. Round trips may fail before or after
they are applied. -/
theorem run_answers_by_log {ops : List Operation} (hclock : InStep ops) (hpolicy : OnePolicy ops)
    (hmembers : DistinctMembers ops) {i : Nat} {op : Operation} (hop : ops[i]? = some op)
    (hfaithful : op.occasion.delivery.isFaithful = true) :
    (∃ outcome, (run [] ops).1[i]? = some outcome ∧
        Answers (log op.key (ops.take i)) op outcome) ∧
      ∀ p key o, op = .check p key o → IsCounted p o →
        (countAndRecord p key o (run [] (ops.take i)).2).1 =
          .ok ((log key (ops.take i)).countP (inWindow p o.reading) : Int) := by
  have hseen : ∀ p : Policy, p ∈ op.policy? → op.readsClock = true →
      seen p op.occasion (windowOf op.key (ops.take i)) =
        (log op.key (ops.take i)).countP (inWindow p op.occasion.reading) :=
    fun p hp hreads => seen_take hclock hpolicy hmembers hop hreads hp
  refine ⟨⟨_, getElem?_run hop [], ?_⟩, ?_⟩
  · cases op with
    | check p key o => exact answers_check hfaithful (hseen p rfl rfl)
    | inspect p key o => exact answers_inspect hfaithful (hseen p rfl rfl)
    | clear key o => exact answers_clear hfaithful log_ne_nil
  · rintro p key o rfl hcounted
    rw [countAndRecord_of_isCounted hcounted key]
    exact congrArg (fun n : Nat => Except.ok (n : Int)) (hseen p rfl rfl)

def samplePolicy : Policy where
  name := "feed"
  maxRequests := 2
  window := ⟨1000000, by decide⟩
  keyPrefix := "feed:"

def sampleOccasion (reading : Int) (delivery : Delivery) (token : Nat) : Occasion :=
  ⟨reading, reading + 1000, delivery, token⟩

/-- Two requests a second: the reply to the second one is lost, and the third is denied.
After a clearing there is room again. -/
def sampleRun : List Operation :=
  [.check samplePolicy "feed:a" (sampleOccasion 0 .delivered 0),
    .check samplePolicy "feed:a" (sampleOccasion 500000000 (.lost (.timeout "")) 1),
    .inspect samplePolicy "feed:a" (sampleOccasion 600000000 .delivered 0),
    .check samplePolicy "feed:a" (sampleOccasion 700000000 .delivered 2),
    .check samplePolicy "feed:b" (sampleOccasion 700000000 (.refused (.timeout "")) 3),
    .clear "feed:a" (sampleOccasion 800000000 .delivered 0),
    .check samplePolicy "feed:a" (sampleOccasion 900000000 .delivered 4)]

theorem sampleRun_inStep : InStep sampleRun :=
  inStep_of_latency (by decide) (by decide)

/-- The third request is denied by the log, which holds both that came before. -/
theorem sampleRun_answers_by_log :
    InStep sampleRun ∧ OnePolicy sampleRun ∧ DistinctMembers sampleRun ∧
      log "feed:a" (sampleRun.take 3) = [0, 500000000] ∧
      IsCounted samplePolicy (sampleOccasion 700000000 .delivered 2) ∧
      (∃ outcome, (run [] sampleRun).1[3]? = some outcome ∧
        Answers (log "feed:a" (sampleRun.take 3))
          (.check samplePolicy "feed:a" (sampleOccasion 700000000 .delivered 2)) outcome) ∧
      (countAndRecord samplePolicy "feed:a" (sampleOccasion 700000000 .delivered 2)
        (run [] (sampleRun.take 3)).2).1 = .ok 2 := by
  have hpolicy : OnePolicy sampleRun := by decide
  have hmembers : DistinctMembers sampleRun := by decide
  have hlog : log "feed:a" (sampleRun.take 3) = [0, 500000000] := by decide +kernel
  have hcounted : IsCounted samplePolicy (sampleOccasion 700000000 .delivered 2) :=
    ⟨rfl, by decide +kernel⟩
  have hcount : ([0, 500000000] : List Int).countP (inWindow samplePolicy 700000000) = 2 := by
    decide +kernel
  obtain ⟨hanswer, hseen⟩ := run_answers_by_log (i := 3) sampleRun_inStep hpolicy hmembers
    rfl rfl
  refine ⟨sampleRun_inStep, hpolicy, hmembers, hlog, hcounted, hanswer, ?_⟩
  have hlast := hseen _ _ _ rfl hcounted
  rw [hlog] at hlast
  exact hlast.trans (congrArg (fun n : Nat => Except.ok (n : Int)) hcount)

end Operation

end RateLimit.Counter
