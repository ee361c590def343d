import RateLimit.Proofs.Counter.Step

/-!
# The ledger of a run

The store forgets entries when they are trimmed, when their window expires and when it
is cleared. The ledger of a key forgets them only in the last case: `ledger key ops`
lists the entries of the checks that were applied under the key since it was last
cleared, and `log key ops` their readings. Whatever the clock does, what the store holds
under a key is a sublist of its ledger, `held_sublist_ledger`.
-/

namespace RateLimit.Counter

open Number (Binary64)

/-- Whether a recorded reading lies in the window of a reading. -/
def inWindow (p : Policy) (reading recorded : Int) : Bool :=
  Decidable.decide
    (Binary64.nearest (reading - p.windowNs) < Binary64.nearest recorded)

theorem inWindow_iff {p : Policy} {reading recorded : Int} :
    inWindow p reading recorded = true ↔
      Binary64.nearest (reading - p.windowNs) < Binary64.nearest recorded :=
  decide_eq_true_iff

/-- What lies in the window of a reading lies in that of an earlier one. -/
theorem inWindow_of_le {p : Policy} {earlier later recorded : Int} (hle : earlier ≤ later)
    (h : inWindow p later recorded = true) : inWindow p earlier recorded = true := by
  rw [inWindow_iff] at h ⊢
  have := Binary64.nearest_mono (show earlier - p.windowNs ≤ later - p.windowNs by omega)
  omega

theorem lt_of_inWindow {p : Policy} {reading recorded : Int}
    (h : inWindow p reading recorded = true) : reading - p.windowNs < recorded :=
  Binary64.lt_of_nearest_lt_nearest (inWindow_iff.mp h)

theorem inWindow_of_older {p : Policy} {reading recorded : Int}
    (h : recorded ≤ reading - p.windowNs) : inWindow p reading recorded = false := by
  by_contra hin
  have := lt_of_inWindow (Bool.eq_true_of_not_eq_false hin)
  omega

/-- A recorded reading of moderate size that is more than 256 nanoseconds after the beginning of
a window is told from it. -/
theorem inWindow_of_recent {p : Policy} {reading recorded : Int} (hnonneg : 0 ≤ recorded)
    (hlt : recorded < 2 ^ 61) (h : reading - p.windowNs + 256 < recorded) :
    inWindow p reading recorded = true := by
  -- The beginning of the window may be any number below 0, which is cut off.
  let low := max (reading - p.windowNs) (-257)
  have hlow : |low| < 2 ^ 61 := by
    rw [abs_lt]
    omega
  have hhigh : |recorded| < 2 ^ 61 := by rwa [abs_of_nonneg hnonneg]
  rw [inWindow_iff]
  calc Binary64.nearest (reading - p.windowNs)
    _ ≤ Binary64.nearest low := Binary64.nearest_mono (le_max_left _ _)
    _ < Binary64.nearest recorded := Binary64.nearest_lt_nearest hlow hhigh (by omega)

theorem held_trimmed_eq_filter (p : Policy) (o : Occasion) (w : Option Window) :
    Window.held (trimmed p o w) =
      (Window.held (Window.at? o.time w)).filter fun e => inWindow p o.reading e.reading :=
  held_trimmed p o w

namespace Operation

/-- The ledger of a key once an operation is entered. -/
def enter (key : String) (entries : List Entry) (op : Operation) : List Entry :=
  if op.key = key ∧ op.isApplied = true then
    match op with
    | .check _ _ o => entries ++ [⟨o.reading, o.token⟩]
    | .inspect _ _ _ => entries
    | .clear _ _ => []
  else entries

/-- The entries of the checks that were applied under a key since it was last cleared. -/
def ledger (key : String) (ops : List Operation) : List Entry :=
  ops.foldl (enter key) []

/-- The readings of the checks that were applied under a key since it was last
cleared. -/
def log (key : String) (ops : List Operation) : List Int :=
  (ledger key ops).map Entry.reading

theorem ledger_append_singleton (key : String) (ops : List Operation) (op : Operation) :
    ledger key (ops ++ [op]) = enter key (ledger key ops) op := by
  unfold ledger
  rw [List.foldl_append, List.foldl_cons, List.foldl_nil]

theorem enter_of_ne {key : String} {op : Operation} (h : op.key ≠ key)
    (entries : List Entry) : enter key entries op = entries :=
  if_neg fun hand => h hand.1

theorem enter_of_not_applied {op : Operation} (h : op.isApplied = false) (key : String)
    (entries : List Entry) : enter key entries op = entries := by
  refine if_neg fun hand => ?_
  rw [h] at hand
  cases hand.2

theorem enter_check {p : Policy} {key : String} {o : Occasion}
    (h : (check p key o).isApplied = true) (entries : List Entry) :
    enter key entries (.check p key o) = entries ++ [⟨o.reading, o.token⟩] :=
  if_pos ⟨rfl, h⟩

theorem enter_inspect (p : Policy) (j key : String) (o : Occasion) (entries : List Entry) :
    enter j entries (.inspect p key o) = entries := by
  unfold enter
  split_ifs <;> rfl

theorem enter_clear {key : String} {o : Occasion} (h : (clear key o).isApplied = true)
    (entries : List Entry) : enter key entries (.clear key o) = [] :=
  if_pos ⟨rfl, h⟩

theorem mem_of_mem_enter {key : String} {entries : List Entry} {op : Operation} {e : Entry}
    (h : e ∈ enter key entries op) :
    e ∈ entries ∨ ∃ p o, op = .check p key o ∧ op.isApplied = true ∧
      e = ⟨o.reading, o.token⟩ := by
  unfold enter at h
  split_ifs at h with hop
  · obtain ⟨hkey, happlied⟩ := hop
    cases op with
    | check p j o =>
        rcases List.mem_append.mp h with hold | hnew
        · exact Or.inl hold
        · cases hkey
          exact Or.inr ⟨p, o, rfl, happlied, List.mem_singleton.mp hnew⟩
    | inspect p j o => exact Or.inl h
    | clear j o => cases h
  · exact Or.inl h

/-- Only checks that are applied add to a ledger. -/
theorem mem_of_mem_ledger_append {key : String} {ops more : List Operation} {e : Entry}
    (h : e ∈ ledger key (ops ++ more)) :
    e ∈ ledger key ops ∨ ∃ p o, .check p key o ∈ more ∧
      (Operation.check p key o).isApplied = true ∧ e = ⟨o.reading, o.token⟩ := by
  induction more using List.reverseRecOn with
  | nil =>
      rw [List.append_nil] at h
      exact Or.inl h
  | append_singleton more op ih =>
      rw [← List.append_assoc, ledger_append_singleton] at h
      rcases mem_of_mem_enter h with hold | ⟨p, o, rfl, happlied, he⟩
      · rcases ih hold with hfirst | ⟨p, o, hmem, hrest⟩
        · exact Or.inl hfirst
        · exact Or.inr ⟨p, o, List.mem_append_left _ hmem, hrest⟩
      · exact Or.inr ⟨p, o, by simp, happlied, he⟩

/-- The window under a key after a run from the empty store. -/
def windowOf (key : String) (ops : List Operation) : Option Window :=
  Table.get? (run [] ops).2 key

theorem snd_run_append_singleton (ops : List Operation) (op : Operation) :
    (run [] (ops ++ [op])).2 = (op.apply (run [] ops).2).2 := by
  rw [run_append]
  rfl

theorem windowOf_append_of_ne {key : String} {op : Operation} (h : op.key ≠ key)
    (ops : List Operation) : windowOf key (ops ++ [op]) = windowOf key ops := by
  unfold windowOf
  rw [snd_run_append_singleton, get?_apply_of_ne (Ne.symm h)]

theorem windowOf_step (ops : List Operation) (op : Operation) :
    Step op (windowOf op.key ops) (windowOf op.key (ops ++ [op])) := by
  unfold windowOf
  rw [snd_run_append_singleton]
  exact apply_step op _

/-- No operation leaves an empty window behind. -/
theorem Step.filled {op : Operation} {w v : Option Window} (h : Step op w v)
    (hw : Window.Filled w) : Window.Filled v := by
  cases h with
  | idle happlied => exact hw
  | dropped happlied hclock => exact hw.at? _
  | checked happlied httl => exact fun _ => List.ne_nil_of_mem (Window.mem_entries_add _ _)
  | inspected happlied => exact Window.filled_bind_trim _ _
  | cleared happlied => exact nofun

theorem filled_windowOf (key : String) (ops : List Operation) :
    Window.Filled (windowOf key ops) := by
  induction ops using List.reverseRecOn with
  | nil => exact nofun
  | append_singleton ops op ih =>
      by_cases hkey : op.key = key
      · subst hkey
        exact (windowOf_step ops op).filled ih
      · rw [windowOf_append_of_ne hkey]
        exact ih

theorem held_trimmed_sublist (p : Policy) (o : Occasion) (w : Option Window) :
    (Window.held (trimmed p o w)).Sublist (Window.held w) := by
  rw [held_trimmed_eq_filter]
  exact List.filter_sublist.trans (Window.held_at?_sublist o.time w)

theorem held_recorded_sublist (p : Policy) (o : Occasion) (ttl : Int) (w : Option Window) :
    (Window.held (some (recorded p o ttl w))).Sublist
      (Window.held w ++ [⟨o.reading, o.token⟩]) := by
  have htrimmed := held_trimmed_sublist p o w
  show (Window.add _ (trimmed p o w)).entries.Sublist _
  rw [Window.held_add]
  split_ifs with hmem
  · exact htrimmed.trans (List.sublist_append_left _ _)
  · exact htrimmed.append (List.Sublist.refl _)

/-- The store holds nothing under a key that is not in its ledger, whatever the clock
does, whichever policies are used and whichever round trips fail. -/
theorem held_sublist_ledger (key : String) (ops : List Operation) :
    (Window.held (windowOf key ops)).Sublist (ledger key ops) := by
  induction ops using List.reverseRecOn with
  | nil => exact List.Sublist.refl _
  | append_singleton ops op ih =>
      rw [ledger_append_singleton]
      by_cases hkey : op.key = key
      · subst hkey
        have hstep := windowOf_step ops op
        generalize windowOf op.key ops = w at hstep ih
        generalize windowOf op.key (ops ++ [op]) = v at hstep
        cases hstep with
        | idle happlied =>
            rw [enter_of_not_applied happlied]
            exact ih
        | dropped happlied hclock =>
            rw [enter_of_not_applied happlied]
            exact (Window.held_at?_sublist _ w).trans ih
        | @checked p key o ttl _ happlied httl =>
            show List.Sublist _ (enter key (ledger key ops) (.check p key o))
            rw [enter_check happlied]
            exact (held_recorded_sublist p o ttl w).trans (ih.append (List.Sublist.refl _))
        | @inspected p key o _ happlied =>
            rw [enter_inspect]
            exact (held_trimmed_sublist p o w).trans ih
        | cleared happlied => exact List.nil_sublist _
      · rw [windowOf_append_of_ne hkey, enter_of_ne hkey]
        exact ih

/-- A key with a window has a log. -/
theorem log_ne_nil {key : String} {ops : List Operation} {now : Int}
    (h : (Window.at? now (windowOf key ops)).isSome = true) : log key ops ≠ [] := by
  have hheld := (filled_windowOf key ops).at? now h
  have hsub := (Window.held_at?_sublist now (windowOf key ops)).trans
    (held_sublist_ledger key ops)
  intro hlog
  rw [List.map_eq_nil_iff.mp hlog] at hsub
  exact hheld (List.sublist_nil.mp hsub)

/-- What a check or an inspection sees is at most what the log has in the window. -/
theorem seen_le_countP (p : Policy) (key : String) (o : Occasion) (ops : List Operation) :
    seen p o (windowOf key ops) ≤ (log key ops).countP (inWindow p o.reading) := by
  have hsub := ((Window.held_at?_sublist o.time (windowOf key ops)).trans
    (held_sublist_ledger key ops)).filter fun e => inWindow p o.reading e.reading
  unfold seen log
  rw [held_trimmed_eq_filter, List.countP_map, List.countP_eq_length_filter]
  exact hsub.length_le

/-- Nothing is seen once the whole log is out of the window. -/
theorem seen_eq_zero_of_outside {p : Policy} {key : String} {o : Occasion}
    {ops : List Operation} (h : ∀ recorded ∈ log key ops, inWindow p o.reading recorded = false) :
    seen p o (windowOf key ops) = 0 := by
  have hnone : (log key ops).countP (inWindow p o.reading) = 0 :=
    List.countP_eq_zero.mpr fun recorded hmem => by simp [h recorded hmem]
  exact Nat.le_zero.mp (hnone ▸ seen_le_countP p key o ops)

end Operation

end RateLimit.Counter
