import RateLimit.Proofs.Counter.Ceiling

/-!
# What is stored comes of checks

Only a check makes a window, adds to it or moves its deadline: every other operation leaves
a window alone or takes something away from it, `Window.Shrinks`. So whatever the clock does
and whichever round trips fail, a window that is stored holds entries of the ledger of its
key and ends as the last check that was applied under the key wants it, `Upheld`. No key is
stored for ever, and none is stored for nothing.
-/

namespace RateLimit

open Number (Binary64)

namespace Window

/-- What a window may become when nothing is recorded: no more entries, and no other
deadline. -/
def Shrinks (w v : Option Window) : Prop :=
  ∀ v' ∈ v, ∃ w' ∈ w, v'.entries.Sublist w'.entries ∧ v'.deadline = w'.deadline

theorem Shrinks.refl (w : Option Window) : Shrinks w w :=
  fun w' hw => ⟨w', hw, List.Sublist.refl _, rfl⟩

theorem Shrinks.trans {u v w : Option Window} (h : Shrinks u v) (h' : Shrinks v w) :
    Shrinks u w := by
  intro w' hw
  obtain ⟨v', hv, hsub, hdeadline⟩ := h' w' hw
  obtain ⟨u', hu, hsub', hdeadline'⟩ := h v' hv
  exact ⟨u', hu, hsub.trans hsub', hdeadline.trans hdeadline'⟩

theorem shrinks_none (w : Option Window) : Shrinks w none := by
  intro v' hv
  cases hv

theorem shrinks_at? (now : Int) (w : Option Window) : Shrinks w (at? now w) := by
  rcases at?_eq_or now w with h | h
  · rw [h]
    exact Shrinks.refl w
  · rw [h]
    exact shrinks_none w

theorem shrinks_bind_trim (limit : Int) (w : Option Window) :
    Shrinks w (w.bind (trim limit)) := by
  intro v' hv
  obtain ⟨w', hw, htrim⟩ := Option.bind_eq_some_iff.mp hv
  refine ⟨w', hw, ?_⟩
  unfold trim at htrim
  split_ifs at htrim
  cases htrim
  exact ⟨List.filter_sublist, rfl⟩

end Window

namespace Counter

theorem shrinks_trimmed (p : Policy) (o : Occasion) (w : Option Window) :
    Window.Shrinks w (trimmed p o w) :=
  (Window.shrinks_at? o.time w).trans (Window.shrinks_bind_trim _ _)

namespace Operation

/-- The policy and the occasion of a check that is applied under a key. -/
def appliedCheck? (key : String) : Operation → Option (Policy × Occasion)
  | .check p j o => if j = key ∧ (check p j o).isApplied = true then some (p, o) else none
  | .inspect _ _ _ => none
  | .clear _ _ => none

/-- The checks of a run that are applied under a key, in order. -/
def appliedChecks (key : String) (ops : List Operation) : List (Policy × Occasion) :=
  ops.filterMap (appliedCheck? key)

variable {key : String} {op : Operation}

theorem appliedCheck?_eq_some_iff {p : Policy} {o : Occasion} :
    appliedCheck? key op = some (p, o) ↔ op = .check p key o ∧ op.isApplied = true := by
  cases op with
  | check q j o' =>
      constructor
      · intro h
        obtain ⟨⟨rfl, happlied⟩, hpair⟩ := Option.ite_none_right_eq_some.mp h
        cases hpair
        exact ⟨rfl, happlied⟩
      · rintro ⟨⟨⟩, happlied⟩
        exact if_pos ⟨rfl, happlied⟩
  | inspect q j o' => simp [appliedCheck?]
  | clear j o' => simp [appliedCheck?]

theorem appliedChecks_append_singleton (key : String) (ops : List Operation)
    (op : Operation) :
    appliedChecks key (ops ++ [op]) = appliedChecks key ops ++ (appliedCheck? key op).toList := by
  unfold appliedChecks
  rw [List.filterMap_append]
  cases h : appliedCheck? key op <;> simp [h]

/-- What is no applied check can only take away from a window. -/
theorem Step.shrinks {w v : Option Window} (h : Step op w v)
    (hop : appliedCheck? op.key op = none) : Window.Shrinks w v := by
  cases h with
  | idle happlied => exact Window.Shrinks.refl w
  | dropped happlied hreads => exact Window.shrinks_at? _ w
  | checked happlied httl =>
      cases hop.symm.trans (appliedCheck?_eq_some_iff.mpr ⟨rfl, happlied⟩)
  | inspected happlied => exact shrinks_trimmed _ _ w
  | cleared happlied => exact Window.shrinks_none w

/-- A check that is applied records its reading and sets the deadline. -/
theorem Step.recorded {p : Policy} {o : Occasion} {w v : Option Window}
    (h : Step (.check p key o) w v) (happlied : (check p key o).isApplied = true) :
    ∃ ttl, p.keyTtl? = .ok ttl ∧ v = some (Counter.recorded p o ttl w) := by
  cases h with
  | idle hidle => cases hidle.symm.trans happlied
  | dropped hidle _ => cases hidle.symm.trans happlied
  | checked _ httl => exact ⟨_, httl, rfl⟩

theorem shrinks_apply (hop : appliedCheck? key op = none) (s : Store) :
    Window.Shrinks (Table.get? s key) (Table.get? (op.apply s).2 key) := by
  by_cases hkey : op.key = key
  · subst hkey
    exact (apply_step op s).shrinks hop
  · rw [get?_apply_of_ne (Ne.symm hkey)]
    exact Window.Shrinks.refl _

/-- Whether a deadline is the one that the last of the checks wants. -/
def IsRenewed (checks : List (Policy × Occasion)) (deadline : Option Int) : Prop :=
  ∃ p o ttl, checks.getLast? = some (p, o) ∧ p.keyTtl? = .ok ttl ∧
    deadline = some (o.time + ttl * Action.second)

/-- The window of a key ends as the last check wants that was applied under the key. -/
theorem isRenewed_windowOf (key : String) (ops : List Operation) :
    ∀ w ∈ windowOf key ops, IsRenewed (appliedChecks key ops) w.deadline := by
  induction ops using List.reverseRecOn with
  | nil => exact nofun
  | append_singleton ops op ih =>
      intro w hw
      rw [appliedChecks_append_singleton]
      cases hop : appliedCheck? key op with
      | none =>
          have hshrinks := shrinks_apply hop (run [] ops).2
          rw [← snd_run_append_singleton] at hshrinks
          obtain ⟨w', hw', -, hdeadline⟩ := hshrinks w hw
          rw [hdeadline, Option.toList_none, List.append_nil]
          exact ih w' hw'
      | some check =>
          obtain ⟨p, o⟩ := check
          obtain ⟨rfl, happlied⟩ := appliedCheck?_eq_some_iff.mp hop
          obtain ⟨ttl, httl, hwindow⟩ :=
            Step.recorded (windowOf_step ops (.check p key o)) happlied
          cases hw.symm.trans hwindow
          exact ⟨p, o, ttl, by simp, httl, rfl⟩

/-- A reading that was recorded is a machine number. -/
theorem ofInt?_of_mem_ledger {ops : List Operation} {e : Entry} (h : e ∈ ledger key ops) :
    Binary64.ofInt? e.reading = some (.finite e.score) := by
  have hnew : e ∈ ledger key ([] ++ ops) := h
  rcases mem_of_mem_ledger_append hnew with hnil | ⟨p, o, -, happlied, rfl⟩
  · cases hnil
  · obtain ⟨-, hlimit, hreset⟩ := fits_iff.mp (Bool.and_eq_true_iff.mp happlied).2
    have hpos := p.windowNs_pos
    have hreading : (Binary64.ofInt? o.reading).isSome = true :=
      Binary64.ofInt?_isSome_of_between (by omega) (by omega) hlimit hreset
    exact Binary64.ofInt?_eq_some hreading

/-- What a window that is stored under a key after a run owes to the checks of the run. -/
structure Upheld (key : String) (ops : List Operation) (w : Window) : Prop where
  entries_ne_nil : w.entries ≠ []
  scores_sublist : (w.entries.map Entry.score).Sublist ((log key ops).map Binary64.nearest)
  score_eq : ∀ e ∈ w.entries, Binary64.ofInt? e.reading = some (.finite e.score)
  isRenewed : IsRenewed (appliedChecks key ops) w.deadline

theorem upheld_windowOf {ops : List Operation} {w : Window} (h : windowOf key ops = some w) :
    Upheld key ops w := by
  have hheld : w.entries.Sublist (ledger key ops) := by
    have hsub := held_sublist_ledger key ops
    rwa [h] at hsub
  have hfilled := filled_windowOf key ops
  rw [h] at hfilled
  refine ⟨hfilled rfl, ?_, fun e he => ofInt?_of_mem_ledger (hheld.subset he),
    isRenewed_windowOf key ops w h⟩
  unfold log
  rw [List.map_map]
  exact hheld.map Entry.score

/-- After any run from the empty store, every window that is stored holds an entry, its
scores are those of different checks that were applied under its key since it was last
cleared, and its deadline is the one that the last of the applied checks has set. From any
store, an operation that is no check applied under a key makes no window there, adds no
entry and moves no deadline. -/
theorem stored_by_checks :
    (∀ (ops : List Operation) (key : String) (w : Window),
      Table.get? (run [] ops).2 key = some w → Upheld key ops w) ∧
    ∀ (s : Store) (op : Operation) (key : String), appliedCheck? key op = none →
      Window.Shrinks (Table.get? s key) (Table.get? (op.apply s).2 key) :=
  ⟨fun _ _ _ h => upheld_windowOf h, fun s _ _ hop => shrinks_apply hop s⟩

/-- The second check finds everything too old, the inspection empties the window, and then
the clock goes back. The last check does not reach the store. -/
def renewedRun : List Operation :=
  [.check samplePolicy "feed:a" (sampleOccasion 1000000000 .delivered 0),
    .check samplePolicy "feed:a" (sampleOccasion 5000000000 .delivered 1),
    .inspect samplePolicy "feed:a" (sampleOccasion 9000000000 .delivered 2),
    .check samplePolicy "feed:a" (sampleOccasion 3000000000 .delivered 3),
    .check narrowPolicy "feed:a" (sampleOccasion 2500000000 (.lost (.timeout "")) 4),
    .clear "feed:b" (sampleOccasion 2500000000 .delivered 5),
    .check samplePolicy "feed:a" (sampleOccasion 2600000000 (.refused (.timeout "")) 6)]

theorem renewedRun_stored_by_checks :
    Table.get? (run [] renewedRun).2 "feed:a" =
        some ⟨[⟨3000000000, 3⟩, ⟨2500000000, 4⟩], some 63500001000⟩ ∧
      log "feed:a" renewedRun = [1000000000, 5000000000, 3000000000, 2500000000] ∧
      Upheld "feed:a" renewedRun ⟨[⟨3000000000, 3⟩, ⟨2500000000, 4⟩], some 63500001000⟩ ∧
      appliedCheck? "feed:a" renewedRun[2] = none ∧
      Window.Shrinks (Table.get? (run [] (renewedRun.take 2)).2 "feed:a")
        (Table.get? (run [] (renewedRun.take 3)).2 "feed:a") := by
  have hwindow : Table.get? (run [] renewedRun).2 "feed:a" =
      some ⟨[⟨3000000000, 3⟩, ⟨2500000000, 4⟩], some 63500001000⟩ := by decide +kernel
  have hinspect : appliedCheck? "feed:a" renewedRun[2] = none := rfl
  obtain ⟨hstored, hshrinks⟩ := stored_by_checks
  refine ⟨hwindow, by decide +kernel, hstored renewedRun "feed:a" _ hwindow, hinspect, ?_⟩
  exact hshrinks (run [] (renewedRun.take 2)).2 renewedRun[2] "feed:a" hinspect

end Operation

end Counter

end RateLimit
