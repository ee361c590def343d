import RateLimit.Proofs.Counter.Ceiling
import RateLimit.Proofs.Counter.Race.Turn

/-!
# How much racing checks admit

Checks that race may be allowed beyond the quota, but only as many as were between
their counting and their adding at one moment, less one, `run_allowed_le`. The store
holds the entries of all checks of the interval that have been added, `Kept`, so a
check that is counted sees all of them; the others that were allowed are in between.
-/

namespace RateLimit.Counter

open Number (Binary64 ConversionError)

namespace Pipeline

/-- An allowed check has seen less than the quota. -/
theorem lt_of_isAllowed {c : Pipeline} (h : c.isAllowed = true) :
    ∃ count : Int, c.answers[1]? = some count ∧ count < c.attempt.policy.maxRequests := by
  unfold isAllowed decision? at h
  cases hcount : c.answers[1]? with
  | none =>
      rw [hcount] at h
      cases h
  | some count =>
      rw [hcount] at h
      cases hreset : resetAt? c.attempt.policy c.attempt.reading with
      | error e =>
          rw [hreset] at h
          cases h
      | ok resetAt =>
          rw [hreset] at h
          exact ⟨count, rfl, of_decide_eq_true h⟩

theorem isAllowed_answered {c : Pipeline} (h : 2 ≤ c.answers.length) (answer : Int) :
    ({ c with answers := c.answers ++ [answer] } : Pipeline).isAllowed = c.isAllowed := by
  unfold isAllowed decision?
  dsimp only
  rw [List.getElem?_append_left h]

/-- An allowed check is between its counting and its adding, or beyond. -/
theorem isBetween_or_isWritten {c : Pipeline} (h : c.isAllowed = true) :
    c.isBetween = true ∨ c.isWritten = true := by
  obtain ⟨count, hcount, -⟩ := lt_of_isAllowed h
  obtain ⟨hlt, -⟩ := List.getElem?_eq_some_iff.mp hcount
  unfold isBetween isWritten
  rw [beq_iff_eq, decide_eq_true_iff]
  omega

namespace Sent

variable {now : Int} {c c' : Pipeline} {w w' : Option Window}

/-- A window that holds each entry once goes on to do so. -/
theorem nodup (h : Sent now c w c' w') (hnodup : (Window.held w).Nodup) :
    (Window.held w').Nodup := by
  have hlive : (Window.held (Window.at? now w)).Nodup :=
    hnodup.sublist (Window.held_at?_sublist now w)
  cases h with
  | idle h => exact hnodup
  | failed e h => exact hlive
  | trimmed answer h =>
      rw [Window.held_bind_trim]
      exact hlive.filter _
  | counted h => exact hlive
  | added answer h =>
      rw [Window.held_some, Window.held_add]
      split_ifs with hmem
      · exact hlive
      · exact hlive.append (List.nodup_singleton _) (by simpa using hmem)
  | renewed answer v h hheld => rwa [hheld]

/-- An entry that lies in the window of the latest reading is not dropped. -/
theorem mem_held {p : Policy} {b : Int} (h : Sent now c w c' w')
    (hpolicy : c.attempt.policy = p) (hreading : c.attempt.reading ≤ b)
    (hunexpired : Window.at? now w = w) {e : Entry} (hin : inWindow p b e.reading = true)
    (hmem : e ∈ Window.held w) : e ∈ Window.held w' := by
  subst hpolicy
  rw [← hunexpired] at hmem
  cases h with
  | idle h => rwa [hunexpired] at hmem
  | failed e h => exact hmem
  | trimmed answer h =>
      rw [Window.held_bind_trim, List.mem_filter]
      exact ⟨hmem, inWindow_of_le hreading hin⟩
  | counted h => exact hmem
  | added answer h => exact Window.held_subset_add _ _ hmem
  | renewed answer v h hheld => rwa [hheld]

theorem mem_of_isWritten (h : Sent now c w c' w') (hwritten : c'.isWritten = true) :
    c.isWritten = true ∨ c.attempt.entry ∈ Window.held w' := by
  unfold isWritten at hwritten ⊢
  cases h with
  | idle h => exact Or.inl hwritten
  | failed e h => exact Or.inl hwritten
  | trimmed answer h => simp [h] at hwritten
  | counted h => simp [h] at hwritten
  | added answer h => exact Or.inr (Window.mem_entries_add _ _)
  | renewed answer v h hheld => exact Or.inl (by simp [h])

theorem fault_eq_none (h : Sent now c w c' w')
    (hlimit : (Binary64.ofInt? (c.attempt.reading - c.attempt.policy.windowNs)).isSome = true)
    (hreading : (Binary64.ofInt? c.attempt.reading).isSome = true)
    (hfault : c.fault = none) : c'.fault = none := by
  cases h with
  | failed e h =>
      rcases h with h | h
      · rw [h] at hlimit
        cases hlimit
      · rw [h] at hreading
        cases hreading
  | _ => exact hfault

/-- A check that becomes allowed has seen less than the quota, and leaves the window as
it has seen it. -/
theorem length_held_lt (h : Sent now c w c' w') (hbefore : c.isAllowed = false)
    (hafter : c'.isAllowed = true) :
    (Window.held w').length < c.attempt.policy.maxRequests := by
  obtain ⟨count, hcount, hlt⟩ := lt_of_isAllowed hafter
  cases h with
  | idle h =>
      rw [hbefore] at hafter
      cases hafter
  | failed e h =>
      have hsame : ({ c with fault := some e } : Pipeline).isAllowed = c.isAllowed := rfl
      rw [hsame, hbefore] at hafter
      cases hafter
  | trimmed answer h =>
      rw [List.getElem?_eq_none (by simp [h])] at hcount
      cases hcount
  | counted h =>
      rw [List.getElem?_append_right h.le, h] at hcount
      obtain rfl := Option.some.inj hcount
      exact_mod_cast hlt
  | added answer h =>
      rw [isAllowed_answered h.ge, hbefore] at hafter
      cases hafter
  | renewed answer v h hheld =>
      rw [isAllowed_answered (by omega), hbefore] at hafter
      cases hafter

end Sent

end Pipeline

namespace Race

theorem countP_le_add {α : Type} {l : List α} {q q₁ q₂ : α → Bool}
    (h : ∀ x ∈ l, q x = true → q₁ x = true ∨ q₂ x = true) :
    l.countP q ≤ l.countP q₁ + l.countP q₂ := by
  induction l with
  | nil => exact Nat.zero_le _
  | cons x rest ih =>
      have hrest := ih fun y hy => h y (List.mem_cons_of_mem _ hy)
      have hx := h x List.mem_cons_self
      rw [List.countP_cons, List.countP_cons, List.countP_cons]
      cases hq : q x with
      | false => simp; omega
      | true => rcases hx hq with hq | hq <;> simp [hq] <;> omega

theorem countP_set_le {α : Type} {l : List α} {q : α → Bool} {i : Nat} {x y : α}
    (hx : l[i]? = some x) (h : q y = true → q x = true) :
    (l.set i y).countP q ≤ l.countP q := by
  obtain ⟨hlt, rfl⟩ := List.getElem?_eq_some_iff.mp hx
  have hone := List.boole_getElem_le_countP (p := q) hlt
  rw [List.countP_set hlt]
  split_ifs at hone ⊢ with hold hnew hnew
  · omega
  · omega
  · exact absurd (h hnew) hold
  · omega

/-- How many checks on a key, at readings between two bounds, have added their entry. -/
def written (key : String) (a b : Int) (r : Race) : Nat :=
  r.pipelines.countP fun c => c.attempt.isNear key a b && c.isWritten

/-- The store holds the entries of all checks near by that have come so far. -/
structure Kept (key : String) (a b : Int) (r : Race) : Prop where
  fault_eq_none : ∀ c ∈ r.pipelines, c.attempt.isNear key a b = true → c.fault = none
  mem_held : ∀ c ∈ r.pipelines, c.attempt.isNear key a b = true → c.isWritten = true →
    c.attempt.entry ∈ Window.held (r.window key)
  nodup : (Window.held (r.window key)).Nodup

/-- Every check on a key is under one policy, at a reading up to a bound. -/
def UsesOnlyUntil (p : Policy) (key : String) (b : Int) (attempts : List Attempt) : Prop :=
  ∀ x ∈ attempts, x.key = key → x.policy = p ∧ x.reading ≤ b

/-- No two checks on a key write the same entry. -/
def DistinctEntries (key : String) (attempts : List Attempt) : Prop :=
  ((attempts.filter fun x => x.key == key).map Attempt.entry).Nodup

instance (p : Policy) (key : String) (b : Int) (attempts : List Attempt) :
    Decidable (UsesOnlyUntil p key b attempts) :=
  inferInstanceAs (Decidable (∀ x ∈ attempts, x.key = key → x.policy = p ∧ x.reading ≤ b))

instance (key : String) (attempts : List Attempt) : Decidable (DistinctEntries key attempts) :=
  inferInstanceAs (Decidable (List.Nodup _))

theorem kept_start {key : String} {s : Store} (hnodup : (Window.held (Table.get? s key)).Nodup)
    (a b : Int) (attempts : List Attempt) : Kept key a b (start s attempts) := by
  refine ⟨?_, ?_, hnodup⟩
  · intro c hc _
    obtain ⟨x, -, rfl⟩ := List.mem_map.mp hc
    rfl
  · intro c hc _ hwritten
    obtain ⟨x, -, rfl⟩ := List.mem_map.mp hc
    cases hwritten

/-- The numbers of a check near by exist. -/
theorem isSome_of_isNear {p : Policy} {key : String} {a b : Int} {x : Attempt}
    (hshort : Operation.IsShort p a b) (hpolicy : x.policy = p)
    (hnear : x.isNear key a b = true) :
    (Binary64.ofInt? (x.reading - x.policy.windowNs)).isSome = true ∧
      (Binary64.ofInt? x.reading).isSome = true := by
  obtain ⟨-, hlow, hhigh⟩ := Attempt.isNear_iff.mp hnear
  obtain ⟨ha, hb, hwindow, -⟩ := hshort
  have hpos := p.windowNs_pos
  subst hpolicy
  have hlimit : |x.reading - x.policy.windowNs| < 2 ^ 61 := by
    rw [abs_lt]
    constructor <;> omega
  have hreading : |x.reading| < 2 ^ 61 := by
    rw [abs_lt]
    constructor <;> omega
  exact ⟨Binary64.ofInt?_isSome_of_lt hlimit, Binary64.ofInt?_isSome_of_lt hreading⟩

/-- A turn keeps what is held of the interval. -/
theorem mem_held_step {p : Policy} {key : String} {a b : Int} {r : Race} {turn : Turn}
    (hshort : Operation.IsShort p a b) (hpolicy : UsesOnlyUntil p key b r.attempts)
    (hunexpired : Window.at? turn.time (r.window key) = r.window key) {e : Entry}
    (hlow : a ≤ e.reading) (hhigh : e.reading ≤ b) (he : e ∈ Window.held (r.window key)) :
    e ∈ Window.held ((r.step turn).window key) := by
  rcases step_cases key r turn with
    hsame | ⟨c, c', hc, -, -, ⟨-, hsame⟩ | ⟨hkey, hsent⟩⟩
  · rwa [hsame]
  · rwa [hsame]
  · obtain ⟨hp, hreading⟩ :=
      hpolicy _ (List.mem_map_of_mem (List.mem_of_getElem? hc)) hkey
    have hin : inWindow p b e.reading = true :=
      hshort.inWindow le_rfl (hlow.trans hhigh) hlow hhigh
    exact hsent.mem_held hp hreading hunexpired hin he

theorem Kept.step {p : Policy} {key : String} {a b : Int} {r : Race} {turn : Turn}
    (hshort : Operation.IsShort p a b) (hpolicy : UsesOnlyUntil p key b r.attempts)
    (hunexpired : Window.at? turn.time (r.window key) = r.window key) (h : Kept key a b r) :
    Kept key a b (r.step turn) := by
  have hkeep : ∀ x : Pipeline, x.attempt.isNear key a b = true →
      x.attempt.entry ∈ Window.held (r.window key) →
        x.attempt.entry ∈ Window.held ((r.step turn).window key) := by
    intro x hnear hx
    obtain ⟨-, hlow, hhigh⟩ := Attempt.isNear_iff.mp hnear
    exact mem_held_step hshort hpolicy hunexpired hlow hhigh hx
  rcases step_cases key r turn with hsame | ⟨c, c', hc, hpipelines, hattempt, hmove⟩
  · rwa [hsame]
  have hmem := List.mem_of_getElem? hc
  -- Any other check is as it was before.
  have hother : ∀ x ∈ (r.step turn).pipelines, x = c' ∨ x ∈ r.pipelines := by
    intro x hx
    rw [hpipelines] at hx
    exact (List.mem_or_eq_of_mem_set hx).symm
  have hsent : c'.attempt.isNear key a b = true → c.attempt.isNear key a b = true ∧
      c.attempt.policy = p ∧
        c.Sent turn.time (r.window key) c' ((r.step turn).window key) := by
    intro hnear
    rw [hattempt] at hnear
    obtain ⟨hkey, -⟩ := Attempt.isNear_iff.mp hnear
    rcases hmove with ⟨hne, -⟩ | ⟨-, hsent⟩
    · exact absurd hkey hne
    · exact ⟨hnear, (hpolicy _ (List.mem_map_of_mem hmem) hkey).1, hsent⟩
  refine ⟨?_, ?_, ?_⟩
  · intro x hx hnear
    rcases hother x hx with rfl | hx
    · obtain ⟨hnear, hp, hsent⟩ := hsent hnear
      obtain ⟨hlimit, hreading⟩ := isSome_of_isNear hshort hp hnear
      exact hsent.fault_eq_none hlimit hreading (h.fault_eq_none c hmem hnear)
    · exact h.fault_eq_none x hx hnear
  · intro x hx hnear hwritten
    rcases hother x hx with rfl | hx
    · obtain ⟨hnear, -, hsent⟩ := hsent hnear
      rw [hattempt]
      rcases hsent.mem_of_isWritten hwritten with hwritten | hadded
      · exact hkeep c hnear (h.mem_held c hmem hnear hwritten)
      · exact hadded
    · exact hkeep x hnear (h.mem_held x hx hnear hwritten)
  · rcases hmove with ⟨-, hsame⟩ | ⟨-, hsent⟩
    · rw [hsame]
      exact h.nodup
    · exact hsent.nodup h.nodup

/-- What has been added is held, each entry once, so that its number is told by the
window. -/
theorem Kept.written_le {key : String} {a b : Int} {r : Race} (h : Kept key a b r)
    (hdistinct : DistinctEntries key r.attempts) :
    r.written key a b ≤ (Window.held (r.window key)).length := by
  let q : Pipeline → Bool := fun c => c.attempt.isNear key a b && c.isWritten
  have hsub : (r.pipelines.filter q).Sublist
      (r.pipelines.filter fun c => c.attempt.key == key) := by
    refine List.monotone_filter_right _ ?_
    intro c hc
    obtain ⟨hkey, -⟩ := Attempt.isNear_iff.mp (Bool.and_eq_true_iff.mp hc).1
    exact beq_iff_eq.mpr hkey
  have hnodup : ((r.pipelines.filter q).map fun c => c.attempt.entry).Nodup := by
    unfold DistinctEntries attempts at hdistinct
    rw [List.filter_map, List.map_map] at hdistinct
    exact hdistinct.sublist (hsub.map _)
  have hheld : ((r.pipelines.filter q).map fun c => c.attempt.entry) ⊆
      Window.held (r.window key) := by
    intro e he
    obtain ⟨c, hc, rfl⟩ := List.mem_map.mp he
    obtain ⟨hmem, hq⟩ := List.mem_filter.mp hc
    obtain ⟨hnear, hwritten⟩ := Bool.and_eq_true_iff.mp hq
    exact h.mem_held c hmem hnear hwritten
  have hle := hnodup.length_le_of_subset hheld
  rwa [List.length_map, ← List.countP_eq_length_filter] at hle

theorem allowed_le_written_add_between (key : String) (a b : Int) (r : Race) :
    r.allowed key a b ≤ r.written key a b + r.between key := by
  refine countP_le_add ?_
  intro c _ hc
  obtain ⟨hnear, hallowed⟩ := Bool.and_eq_true_iff.mp hc
  rcases Pipeline.isBetween_or_isWritten hallowed with hbetween | hwritten
  · obtain ⟨hkey, -⟩ := Attempt.isNear_iff.mp hnear
    exact Or.inr (Bool.and_eq_true_iff.mpr ⟨beq_iff_eq.mpr hkey, hbetween⟩)
  · exact Or.inl (Bool.and_eq_true_iff.mpr ⟨hnear, hwritten⟩)

/-- A turn that lets one more check pass leaves fewer entries than the quota. -/
theorem allowed_step_le {p : Policy} {key : String} {b : Int} {r : Race}
    (hpolicy : UsesOnlyUntil p key b r.attempts) (a : Int) (turn : Turn) :
    (r.step turn).allowed key a b ≤ r.allowed key a b ∨
      (Window.held ((r.step turn).window key)).length < p.maxRequests := by
  rcases step_cases key r turn with hsame | ⟨c, c', hc, hpipelines, hattempt, hmove⟩
  · rw [hsame]
    exact Or.inl le_rfl
  by_cases hallowed : c.isAllowed = false ∧ c'.isAllowed = true ∧ c.attempt.key = key
  · obtain ⟨hbefore, hafter, hkey⟩ := hallowed
    rcases hmove with ⟨hne, -⟩ | ⟨-, hsent⟩
    · exact absurd hkey hne
    · have hlt := hsent.length_held_lt hbefore hafter
      rw [(hpolicy _ (List.mem_map_of_mem (List.mem_of_getElem? hc)) hkey).1] at hlt
      exact Or.inr hlt
  · refine Or.inl ?_
    unfold allowed
    rw [hpipelines]
    refine countP_set_le hc ?_
    intro hq
    obtain ⟨hnear, hafter⟩ := Bool.and_eq_true_iff.mp hq
    rw [hattempt] at hnear
    rw [hnear, Bool.true_and]
    by_contra hbefore
    exact hallowed ⟨Bool.eq_false_iff.mpr hbefore, hafter, (Attempt.isNear_iff.mp hnear).1⟩

theorem allowed_start (key : String) (a b : Int) (s : Store) (attempts : List Attempt) :
    (start s attempts).allowed key a b = 0 := by
  unfold allowed
  rw [List.countP_eq_zero]
  intro c hc hallowed
  obtain ⟨x, -, rfl⟩ := List.mem_map.mp hc
  obtain ⟨count, hcount, -⟩ := Pipeline.lt_of_isAllowed (Bool.and_eq_true_iff.mp hallowed).2
  cases hcount

theorem attempts_run (r : Race) (turns : List Turn) : (r.run turns).attempts = r.attempts := by
  induction turns generalizing r with
  | nil => rfl
  | cons turn rest ih => rw [run_cons, ih, attempts_step]

/-- The window under a key is never dropped because its deadline has passed. -/
def Unexpired (key : String) (r : Race) (turns : List Turn) : Prop :=
  ∀ k, (hk : k < turns.length) →
    Window.at? turns[k].time ((r.run (turns.take k)).window key) =
      (r.run (turns.take k)).window key

instance (key : String) (r : Race) (turns : List Turn) : Decidable (Unexpired key r turns) :=
  inferInstanceAs (Decidable (∀ k, (hk : k < turns.length) →
    Window.at? turns[k].time ((r.run (turns.take k)).window key) =
      (r.run (turns.take k)).window key))

theorem unexpired_cons {key : String} {r : Race} {turn : Turn} {turns : List Turn}
    (h : Unexpired key r (turn :: turns)) :
    Window.at? turn.time (r.window key) = r.window key ∧
      Unexpired key (r.step turn) turns :=
  ⟨h 0 (Nat.succ_pos _), fun k hk => h (k + 1) (Nat.succ_lt_succ hk)⟩

theorem Kept.run {p : Policy} {key : String} {a b : Int} {r : Race} {turns : List Turn}
    (hshort : Operation.IsShort p a b) (hpolicy : UsesOnlyUntil p key b r.attempts)
    (hunexpired : Unexpired key r turns) (h : Kept key a b r) : Kept key a b (r.run turns) := by
  induction turns generalizing r with
  | nil => exact h
  | cons turn rest ih =>
      obtain ⟨hfirst, hrest⟩ := unexpired_cons hunexpired
      rw [run_cons]
      exact ih (by rwa [attempts_step]) hrest (h.step hshort hpolicy hfirst)

/-- As long as there are at most `c` checks between their counting and their adding, at
most that many less one are allowed beyond the quota. -/
theorem allowed_run_le {p : Policy} {key : String} {a b : Int} {c : Nat} {r : Race}
    {turns : List Turn} (hshort : Operation.IsShort p a b) (hpolicy : UsesOnlyUntil p key b r.attempts)
    (hdistinct : DistinctEntries key r.attempts) (hunexpired : Unexpired key r turns)
    (hbetween : ∀ k ≤ turns.length, (r.run (turns.take k)).between key ≤ c)
    (hkept : Kept key a b r) (h : r.allowed key a b ≤ p.maxRequests + c - 1) :
    (r.run turns).allowed key a b ≤ p.maxRequests + c - 1 := by
  induction turns generalizing r with
  | nil => exact h
  | cons turn rest ih =>
      obtain ⟨hfirst, hrest⟩ := unexpired_cons hunexpired
      have hstep := hkept.step hshort hpolicy hfirst
      have hattempts := attempts_step r turn
      rw [run_cons]
      refine ih (by rwa [hattempts]) (by rwa [hattempts]) hrest ?_ hstep ?_
      · intro k hk
        exact hbetween (k + 1) (Nat.succ_le_succ hk)
      · have hsplit := allowed_le_written_add_between key a b (r.step turn)
        have hwritten := hstep.written_le (by rwa [hattempts])
        have hnow : (r.step turn).between key ≤ c := hbetween 1 (Nat.succ_le_succ (Nat.zero_le _))
        rcases allowed_step_le hpolicy a turn with hle | hlt
        · exact hle.trans h
        · omega

/-- A check that is done without a fault has added its entry. -/
theorem isWritten_of_done {x : Pipeline} (hdone : x.pending = []) (hfault : x.fault = none) :
    x.isWritten = true := by
  unfold Pipeline.pending at hdone
  rw [hfault] at hdone
  have hlength : 4 ≤ x.answers.length := List.drop_eq_nil_iff.mp hdone
  exact decide_eq_true (by omega)

/-- Checks on a key under one policy may have their commands interleaved in any way. As
long as the key does not expire and never more than `c` of them are between their
counting and their adding, no more than `c - 1` checks beyond the quota are allowed at
readings of an interval that is shorter than the window by more than 256 nanoseconds,
and every check of the interval is recorded once when all are done. -/
theorem run_allowed_le {p : Policy} {key : String} {a b : Int} {c : Nat} {s : Store}
    {attempts : List Attempt} {turns : List Turn} (ha : 0 ≤ a) (hb : b < 2 ^ 61)
    (hwindow : p.windowNs < 2 ^ 61) (hab : b - a < p.windowNs - 256)
    (hnodup : (Window.held (Table.get? s key)).Nodup) (hpolicy : UsesOnlyUntil p key b attempts)
    (hdistinct : DistinctEntries key attempts)
    (hunexpired : Unexpired key (start s attempts) turns)
    (hbetween : ∀ k ≤ turns.length, ((start s attempts).run (turns.take k)).between key ≤ c) :
    ((start s attempts).run turns).allowed key a b ≤ p.maxRequests + c - 1 ∧
      ((∀ x ∈ ((start s attempts).run turns).pipelines, x.attempt.key = key →
          x.pending = []) →
        ∀ x ∈ attempts, x.isNear key a b = true →
          (Window.held (((start s attempts).run turns).window key)).count x.entry = 1) := by
  have hshort : Operation.IsShort p a b := ⟨ha, hb, hwindow, hab⟩
  have hattempts := attempts_start s attempts
  rw [← hattempts] at hpolicy hdistinct
  have hstart := kept_start hnodup a b attempts
  have hkept := hstart.run hshort hpolicy hunexpired
  constructor
  · refine allowed_run_le hshort hpolicy hdistinct hunexpired hbetween hstart ?_
    rw [allowed_start]
    exact Nat.zero_le _
  · intro hdone x hx hnear
    rw [← hattempts, ← attempts_run _ turns] at hx
    obtain ⟨y, hy, rfl⟩ := List.mem_map.mp hx
    obtain ⟨hkey, -⟩ := Attempt.isNear_iff.mp hnear
    have hwritten := isWritten_of_done (hdone y hy hkey) (hkept.fault_eq_none y hy hnear)
    exact List.count_eq_one_of_mem hkept.nodup (hkept.mem_held y hy hnear hwritten)

/-- Two checks at once where one request a second is allowed. -/
def rivals : List Attempt :=
  [⟨Operation.narrowPolicy, "narrow:a", ⟨5000, 0⟩, 61, by decide +kernel⟩,
    ⟨Operation.narrowPolicy, "narrow:a", ⟨2000, 1⟩, 61, by decide +kernel⟩]

/-- Both trim, both count, both add. -/
def headToHead : List Turn :=
  [⟨0, 6000⟩, ⟨1, 6000⟩, ⟨0, 7000⟩, ⟨1, 7000⟩, ⟨1, 8000⟩, ⟨0, 8000⟩, ⟨0, 9000⟩,
    ⟨1, 9000⟩]

/-- The bound is reached: both are allowed, and both are recorded. -/
theorem headToHead_allowed :
    UsesOnlyUntil Operation.narrowPolicy "narrow:a" 5000 rivals ∧
      DistinctEntries "narrow:a" rivals ∧ Unexpired "narrow:a" (start [] rivals) headToHead ∧
      (∀ k ≤ headToHead.length,
        ((start [] rivals).run (headToHead.take k)).between "narrow:a" ≤ 2) ∧
      ((start [] rivals).run headToHead).allowed "narrow:a" 2000 5000 = 1 + 2 - 1 ∧
      ((start [] rivals).run headToHead).allowed "narrow:a" 2000 5000 ≤ 1 + 2 - 1 ∧
      (Window.held (((start [] rivals).run headToHead).window "narrow:a")).count ⟨2000, 1⟩ =
        1 := by
  have hpolicy : UsesOnlyUntil Operation.narrowPolicy "narrow:a" 5000 rivals := by decide +kernel
  have hdistinct : DistinctEntries "narrow:a" rivals := by decide +kernel
  have hunexpired : Unexpired "narrow:a" (start [] rivals) headToHead := by decide +kernel
  have hbetween : ∀ k ≤ headToHead.length,
      ((start [] rivals).run (headToHead.take k)).between "narrow:a" ≤ 2 := by decide +kernel
  have hdone : ∀ x ∈ ((start [] rivals).run headToHead).pipelines,
      x.attempt.key = "narrow:a" → x.pending = [] := by decide +kernel
  have hempty : (Window.held (Table.get? ([] : Store) "narrow:a")).Nodup := List.nodup_nil
  obtain ⟨hle, hrecorded⟩ := run_allowed_le (a := 2000) (by decide) (by decide) (by decide)
    (by decide) hempty hpolicy hdistinct hunexpired hbetween
  exact ⟨hpolicy, hdistinct, hunexpired, hbetween, by decide +kernel, hle,
    hrecorded hdone _ (List.mem_cons_of_mem _ List.mem_cons_self) (by decide)⟩

end Race

end RateLimit.Counter
