import RateLimit.Proofs.Counter.RoundTrip
import RateLimit.Proofs.Counter.SlidingLog

/-!
# Keys do not interfere

An operation reads and writes the window of its own key, so a run can be taken apart by
keys: what its operations on a key answer, and the window that they leave, is what they
answer and leave on their own, `run_onKey`. The operations on different keys may be put
in any order.
-/

namespace RateLimit.Counter.Operation

/-- The operations of a run that are on a key. -/
def onKey (key : String) (ops : List Operation) : List Operation :=
  ops.filter fun op => op.key = key

/-- The operations of a run, each with what it answers. -/
def transcript (s : Store) (ops : List Operation) : List (Operation × Outcome) :=
  ops.zip (run s ops).1

/-- The part of a transcript that is on a key. -/
def transcriptOn (key : String) (s : Store) (ops : List Operation) :
    List (Operation × Outcome) :=
  (transcript s ops).filter fun answered => answered.1.key = key

theorem onKey_cons_self (op : Operation) (rest : List Operation) :
    onKey op.key (op :: rest) = op :: onKey op.key rest :=
  List.filter_cons_of_pos (decide_eq_true rfl)

theorem onKey_cons_of_ne {op : Operation} {key : String} (h : op.key ≠ key)
    (rest : List Operation) : onKey key (op :: rest) = onKey key rest :=
  List.filter_cons_of_neg (by simpa using h)

theorem key_of_mem_onKey {key : String} {ops : List Operation} {op : Operation}
    (h : op ∈ onKey key ops) : op.key = key :=
  of_decide_eq_true (List.mem_filter.mp h).2

theorem transcript_cons (s : Store) (op : Operation) (rest : List Operation) :
    transcript s (op :: rest) =
      (op, (op.apply s).1) :: transcript (op.apply s).2 rest := rfl

theorem transcriptOn_cons_self (s : Store) (op : Operation) (rest : List Operation) :
    transcriptOn op.key s (op :: rest) =
      (op, (op.apply s).1) :: transcriptOn op.key (op.apply s).2 rest :=
  List.filter_cons_of_pos (decide_eq_true rfl)

theorem transcriptOn_cons_of_ne {op : Operation} {key : String} (h : op.key ≠ key) (s : Store)
    (rest : List Operation) :
    transcriptOn key s (op :: rest) = transcriptOn key (op.apply s).2 rest :=
  List.filter_cons_of_neg (by simpa using h)

/-- An operation depends on the window of its key alone. -/
theorem agreeOn_apply (op : Operation) {s t : Store}
    (h : Table.get? s op.key = Table.get? t op.key) :
    AgreeOn op.key (op.apply s) (op.apply t) := by
  cases op with
  | check p key o => exact (agreeOn_check h p o).map Outcome.checked
  | inspect p key o => exact (agreeOn_inspect h p o).map Outcome.inspected
  | clear key o => exact (agreeOn_clear h o).map Outcome.cleared

/-- A run of operations on one key depends on the window of this key alone. -/
theorem agreeOn_run {key : String} {ops : List Operation} (hkey : ∀ op ∈ ops, op.key = key)
    {s t : Store} (h : Table.get? s key = Table.get? t key) :
    AgreeOn key (run s ops) (run t ops) := by
  induction ops generalizing s t with
  | nil => exact ⟨rfl, h⟩
  | cons op rest ih =>
      obtain rfl : op.key = key := hkey op List.mem_cons_self
      obtain ⟨hfirst, hwindow⟩ := agreeOn_apply op h
      obtain ⟨hrest, hlast⟩ := ih (fun x hx => hkey x (List.mem_cons_of_mem _ hx)) hwindow
      rw [run_cons, run_cons]
      exact ⟨by rw [hfirst, hrest], hlast⟩

/-- An operation on another key goes unnoticed. -/
theorem agreeOn_run_of_ne {op : Operation} {key : String} (h : op.key ≠ key) (s : Store)
    (ops : List Operation) :
    AgreeOn key (run (op.apply s).2 (onKey key ops)) (run s (onKey key ops)) :=
  agreeOn_run (fun _ hx => key_of_mem_onKey hx) (get?_apply_of_ne (Ne.symm h) s)

theorem transcriptOn_eq (key : String) (s : Store) (ops : List Operation) :
    transcriptOn key s ops = transcript s (onKey key ops) := by
  induction ops generalizing s with
  | nil => rfl
  | cons op rest ih =>
      by_cases hkey : op.key = key
      · subst hkey
        rw [transcriptOn_cons_self, onKey_cons_self, transcript_cons, ih]
      · rw [transcriptOn_cons_of_ne hkey, onKey_cons_of_ne hkey, ih]
        unfold transcript
        rw [(agreeOn_run_of_ne hkey s rest).1]

theorem get?_run_onKey (key : String) (s : Store) (ops : List Operation) :
    Table.get? (run s (onKey key ops)).2 key = Table.get? (run s ops).2 key := by
  induction ops generalizing s with
  | nil => rfl
  | cons op rest ih =>
      rw [run_cons, ← ih]
      by_cases hkey : op.key = key
      · subst hkey
        rw [onKey_cons_self, run_cons]
      · rw [onKey_cons_of_ne hkey]
        exact (agreeOn_run_of_ne hkey s rest).2.symm

/-- Neighbours on different keys may change places. -/
theorem onKey_swap {x y : Operation} (h : x.key ≠ y.key) (key : String)
    (before after : List Operation) :
    onKey key (before ++ x :: y :: after) = onKey key (before ++ y :: x :: after) := by
  unfold onKey
  rw [List.filter_append, List.filter_append]
  congr 1
  by_cases hx : x.key = key
  · have hy : y.key ≠ key := fun hy => h (hx.trans hy.symm)
    simp [hx, hy]
  · by_cases hy : y.key = key <;> simp [hx, hy]

/-- Whatever the store holds at first, the operations on a key answer the same, and leave
the same window, when all operations on other keys are left out. So it does not matter
in which order operations on different keys come, as long as the order on each key is
kept. -/
theorem run_by_keys (s : Store) (ops : List Operation) :
    (∀ key, transcriptOn key s ops = transcript s (onKey key ops) ∧
        Table.get? (run s (onKey key ops)).2 key = Table.get? (run s ops).2 key) ∧
      ∀ reordered : List Operation, (∀ key, onKey key reordered = onKey key ops) →
        ∀ key, transcriptOn key s reordered = transcriptOn key s ops ∧
          Table.get? (run s reordered).2 key = Table.get? (run s ops).2 key := by
  refine ⟨fun key => ⟨transcriptOn_eq key s ops, get?_run_onKey key s ops⟩, ?_⟩
  intro reordered hsame key
  refine ⟨?_, ?_⟩
  · rw [transcriptOn_eq, transcriptOn_eq, hsame key]
  · rw [← get?_run_onKey key s reordered, hsame key, get?_run_onKey]

/-- What a check says is left of the quota. -/
def remaining? : Outcome → Option Int
  | .checked (.ok c) => some c.decision.remaining
  | _ => none

def crossingRun : List Operation :=
  [.check samplePolicy "feed:a" (sampleOccasion 0 .delivered 0),
    .check samplePolicy "feed:b" (sampleOccasion 0 (.lost (.timeout "")) 1),
    .check samplePolicy "feed:a" (sampleOccasion 100000000 .delivered 2),
    .clear "feed:b" (sampleOccasion 200000000 .delivered 0)]

/-- The clearing of one key comes before the last check on the other one. -/
def crossedRun : List Operation :=
  [.check samplePolicy "feed:a" (sampleOccasion 0 .delivered 0),
    .check samplePolicy "feed:b" (sampleOccasion 0 (.lost (.timeout "")) 1),
    .clear "feed:b" (sampleOccasion 200000000 .delivered 0),
    .check samplePolicy "feed:a" (sampleOccasion 100000000 .delivered 2)]

theorem crossedRun_by_keys :
    (∀ key, onKey key crossedRun = onKey key crossingRun) ∧
      (transcript [] (onKey "feed:a" crossingRun)).map (fun x => remaining? x.2) =
        [some 1, some 0] ∧
      transcriptOn "feed:a" [] crossingRun = transcript [] (onKey "feed:a" crossingRun) ∧
      transcriptOn "feed:a" [] crossedRun = transcriptOn "feed:a" [] crossingRun := by
  have hsame : ∀ key, onKey key crossedRun = onKey key crossingRun := fun key =>
    onKey_swap (by decide) key (crossingRun.take 2) []
  obtain ⟨halone, hreordered⟩ := run_by_keys [] crossingRun
  exact ⟨hsame, by decide +kernel, (halone "feed:a").1, (hreordered crossedRun hsame "feed:a").1⟩

end RateLimit.Counter.Operation
