import RateLimit.Proofs.Counter.Denial
import RateLimit.Proofs.Counter.Isolation
import RateLimit.Proofs.Counter.Observation

/-!
# Fewer requests and a larger quota

Two runs use one key, and the checks of the second one are some of those of the first,
`Thins`. Denied requests are recorded like the others, and neither trimming nor expiry
depends on a verdict, so that what the second run holds in a window is there in the first
run, too: each check of the second run sees at most as much as it sees in the first,
`Thins.seen_le`. So a request that is left out, or a larger quota, does no harm to any
other request, `run_thinned`. A client that retries while it is denied gets through no
earlier.
-/

namespace RateLimit.Counter

open Number (Binary64 ConversionError)

section SameWindow

variable {p q : Policy}

theorem windowNs_congr (h : q.window = p.window) : q.windowNs = p.windowNs :=
  congrArg Span.nanoseconds h

theorem inWindow_congr (h : q.window = p.window) : inWindow q = inWindow p := by
  unfold inWindow
  rw [windowNs_congr h]

theorem fits_congr (h : q.window = p.window) : fits q = fits p := by
  unfold fits Policy.keyTtl?
  rw [windowNs_congr h, h]

theorem resetAt?_congr (h : q.window = p.window) : resetAt? q = resetAt? p := by
  unfold resetAt?
  rw [windowNs_congr h]

end SameWindow

/-- What a quota that is at least as large decides on a count that is at most as large. -/
theorem decide_le {p q : Policy} (hquota : p.maxRequests ≤ q.maxRequests) {count few : Nat}
    (hcount : few ≤ count) (resetAt : Binary64) :
    ((decide p count resetAt).allowed = true → (decide q few resetAt).allowed = true) ∧
      (decide p count resetAt).remaining ≤ (decide q few resetAt).remaining := by
  unfold decide
  simp only [decide_eq_true_eq]
  omega

namespace Operation

/-- The second result is as good as the first for the caller. -/
def NoWorse (result other : Except ConversionError Check) : Prop :=
  ∀ c, result = .ok c → ∃ c', other = .ok c' ∧
    (c.decision.allowed = true → c'.decision.allowed = true) ∧
      c.decision.remaining ≤ c'.decision.remaining

/-- A check that sees no more, with a quota that is no less, answers nothing worse. -/
theorem noWorse_check {p q : Policy} {key : String} {a b : Occasion} {s t : Store}
    (hwindow : q.window = p.window) (hquota : p.maxRequests ≤ q.maxRequests)
    (hreading : b.reading = a.reading) (hdelivery : a.delivery = .delivered)
    (hfaithful : b.delivery.isFaithful = true)
    (hseen : seen q b (Table.get? t key) ≤ seen p a (Table.get? s key)) :
    NoWorse (Counter.check p key a s).1 (Counter.check q key b t).1 := by
  have hfaithful' := Delivery.isFaithful_of_eq hdelivery
  have hreset : resetAt? q b.reading = resetAt? p a.reading := by
    rw [resetAt?_congr hwindow, hreading]
  rcases check_cases hfaithful' key s with
    ⟨e, -, hanswer⟩ | ⟨resetAt, fault, htold, huncounted, hanswer⟩ |
      ⟨resetAt, htold, -, hanswer⟩
  · rw [hanswer]
    exact nofun
  · rw [hanswer]
    rintro _ ⟨⟩
    -- The store has no number for the first check, and so none for the second.
    have hmisfit : ¬IsCounted q b := by
      rintro ⟨-, hfits⟩
      rw [fits_congr hwindow, hreading] at hfits
      exact huncounted ⟨hdelivery, hfits⟩
    rcases check_cases_of_reset hfaithful (hreset.trans htold) key t with
      ⟨-, fault', hanswer'⟩ | ⟨hcounted', -⟩
    · exact ⟨_, hanswer', fun _ => rfl, Int.ofNat_le.mpr hquota⟩
    · exact absurd hcounted' hmisfit
  · rw [hanswer]
    rintro _ ⟨⟩
    rcases check_cases_of_reset hfaithful (hreset.trans htold) key t with
      ⟨-, fault', hanswer'⟩ | ⟨-, hanswer'⟩
    · refine ⟨_, hanswer', fun _ => rfl, ?_⟩
      unfold Counter.decide failOpen
      dsimp only
      omega
    · exact ⟨_, hanswer', decide_le hquota hseen resetAt⟩

/-- The checks of the second run under a key are among those of the first, in the same
order. Each has its place there, with the same reading, and those that write one member
there write one member here: when all members of the first run are distinct, the tokens of
the second are free. -/
structure Thins (p q : Policy) (key : String) (first second : List Operation)
    (place : Nat → Nat) (token : Entry → Nat) : Prop where
  found : ∀ {j : Nat} {b : Occasion}, second[j]? = some (.check q key b) →
    ∃ a, first[place j]? = some (.check p key a) ∧ b.reading = a.reading ∧
      b.token = token ⟨a.reading, a.token⟩
  ordered : ∀ {i j : Nat} {b b' : Occasion}, i < j → second[i]? = some (.check q key b) →
    second[j]? = some (.check q key b') → place i < place j

theorem mem_take_of_getElem? {ops : List Operation} {i n : Nat} {op : Operation} (hlt : i < n)
    (h : ops[i]? = some op) : op ∈ ops.take n :=
  List.mem_iff_getElem?.mpr ⟨i, by rw [List.getElem?_take_of_lt hlt, h]⟩

theorem exists_getElem?_of_mem_take {ops : List Operation} {n : Nat} {op : Operation}
    (h : op ∈ ops.take n) : ∃ i, i < n ∧ ops[i]? = some op := by
  obtain ⟨i, hi⟩ := List.mem_iff_getElem?.mp h
  rw [List.getElem?_take] at hi
  split_ifs at hi with hlt
  exact ⟨i, hlt, hi⟩

/-- Without a clearing every applied check stays in the ledger. -/
theorem mem_ledger_of_mem {key : String} {ops : List Operation}
    (hclear : ∀ o, .clear key o ∈ ops → o.delivery.applies = false) {p : Policy} {o : Occasion}
    (hmem : .check p key o ∈ ops) (happlied : (check p key o).isApplied = true) :
    ⟨o.reading, o.token⟩ ∈ ledger key ops := by
  induction ops using List.reverseRecOn with
  | nil => cases hmem
  | append_singleton ops op ih =>
      rw [ledger_append_singleton]
      rcases List.mem_append.mp hmem with hold | hlast
      · have hkept : (ledger key ops).Sublist (enter key (ledger key ops) op) := by
          refine sublist_enter ?_ _
          rintro o' rfl
          exact hclear o' (by simp)
        exact hkept.subset (ih (fun o' ho' => hclear o' (List.mem_append_left _ ho')) hold)
      · obtain rfl := List.mem_singleton.mp hlast
        rw [enter_check happlied]
        simp

/-- What a run does before one of its operations. -/
theorem past_of_getElem? {p : Policy} {ops : List Operation} {i : Nat} {op : Operation}
    (hclock : InStep ops) (honly : UsesOnly p op.key ops) (hop : ops[i]? = some op)
    (hreads : op.readsClock = true) : Past p op.key op.occasion (ops.take i) where
  inStep := List.Pairwise.sublist (List.take_sublist _ _) hclock
  usesOnly := honly.sublist (List.take_sublist _ _)
  before :=
    have hlast : InStep (ops.take i ++ [op]) :=
      List.Pairwise.sublist (take_append_sublist hop) hclock
    hlast.before hreads

section Thinning

variable {p q : Policy} {key : String} {first second : List Operation} {place : Nat → Nat}
  {token : Entry → Nat}

/-- Every entry of the second ledger has one that it comes from in the first. -/
theorem Thins.exists_mem_ledger (h : Thins p q key first second place token)
    (hwindow : q.window = p.window) (honly : UsesOnly q key second)
    (hclear : ∀ o, .clear key o ∈ first → o.delivery.applies = false)
    (hhealthy : ∀ o, .check p key o ∈ first → o.delivery = .delivered) {j : Nat} {b : Occasion}
    (hop : second[j]? = some (.check q key b)) {e : Entry}
    (he : e ∈ ledger key (second.take j)) :
    ∃ e' ∈ ledger key (first.take (place j)), (⟨e'.reading, token e'⟩ : Entry) = e := by
  have hnew : e ∈ ledger key ([] ++ second.take j) := he
  rcases mem_of_mem_ledger_append hnew with hnil | ⟨q', o, hmem, happlied, rfl⟩
  · cases hnil
  · obtain rfl : q' = q := honly _ (List.mem_of_mem_take hmem) rfl q' rfl
    obtain ⟨i, hlt, hi⟩ := exists_getElem?_of_mem_take hmem
    obtain ⟨a, hplace, hreading, htoken⟩ := h.found hi
    have hfits : fits p a.reading = true := by
      rw [← fits_congr hwindow, ← hreading]
      exact (Bool.and_eq_true_iff.mp happlied).2
    have hcounted : IsCounted p a := ⟨hhealthy a (List.mem_of_getElem? hplace), hfits⟩
    have hfirst : .check p key a ∈ first.take (place j) :=
      mem_take_of_getElem? (h.ordered hlt hi hop) hplace
    refine ⟨⟨a.reading, a.token⟩, mem_ledger_of_mem ?_ hfirst
      (isApplied_of_isCounted hcounted key), ?_⟩
    · exact fun o' ho' => hclear o' (List.mem_of_mem_take ho')
    · rw [hreading, htoken]

/-- A check of the second run sees at most what it sees in the first. -/
theorem Thins.seen_le (h : Thins p q key first second place token)
    (hwindow : q.window = p.window) (hclock : InStep first) (honly : UsesOnly p key first)
    (honly' : UsesOnly q key second)
    (hclear : ∀ o, .clear key o ∈ first → o.delivery.applies = false)
    (hhealthy : ∀ o, .check p key o ∈ first → o.delivery = .delivered) {j : Nat}
    {a b : Occasion} (hop : second[j]? = some (.check q key b))
    (hplace : first[place j]? = some (.check p key a)) (hreading : b.reading = a.reading) :
    seen q b (windowOf key (second.take j)) ≤ seen p a (windowOf key (first.take (place j))) := by
  have hpast : Past p key a (first.take (place j)) := past_of_getElem? hclock honly hplace rfl
  have hsubset : Window.held (trimmed q b (windowOf key (second.take j))) ⊆
      (Window.held (trimmed p a (windowOf key (first.take (place j))))).map
        fun e => ⟨e.reading, token e⟩ := by
    intro e he
    rw [held_trimmed_eq_filter, inWindow_congr hwindow, hreading] at he
    obtain ⟨hheld, hin⟩ := List.mem_filter.mp he
    have hledger : e ∈ ledger key (second.take j) :=
      ((Window.held_at?_sublist b.time _).trans (held_sublist_ledger key _)).subset hheld
    obtain ⟨e', he', rfl⟩ := h.exists_mem_ledger hwindow honly' hclear hhealthy hop hledger
    exact List.mem_map.mpr ⟨e', hpast.mem_held_iff.mpr ⟨he', hin⟩, rfl⟩
  have hnodup := (nodup_held_windowOf key (second.take j)).sublist (held_trimmed_sublist q b _)
  have hle := (List.subperm_of_subset hnodup hsubset).length_le
  rwa [List.length_map] at hle

/-- The second run leaves out some of the checks of the first on a key, and its quota is at
least as large over the same window. The clock never goes back, the checks of the first run
reach the store, and the key is not cleared there. Then each check of the second run fares
at least as well as it does in the first: it is allowed if it is allowed there, and no less
remains. -/
theorem run_thinned (hwindow : q.window = p.window) (hquota : p.maxRequests ≤ q.maxRequests)
    (hclock : InStep first) (honly : UsesOnly p key first) (honly' : UsesOnly q key second)
    (hclear : ∀ o, .clear key o ∈ first → o.delivery.applies = false)
    (hhealthy : ∀ o, .check p key o ∈ first → o.delivery = .delivered)
    (hthins : Thins p q key first second place token) {j : Nat} {b : Occasion}
    (hop : second[j]? = some (.check q key b)) (hfaithful : b.delivery.isFaithful = true) :
    ∃ result result', (run [] first).1[place j]? = some (.checked result) ∧
      (run [] second).1[j]? = some (.checked result') ∧ NoWorse result result' := by
  obtain ⟨a, hplace, hreading, -⟩ := hthins.found hop
  have hdelivery := hhealthy a (List.mem_of_getElem? hplace)
  have hseen := hthins.seen_le hwindow hclock honly honly' hclear hhealthy hop hplace hreading
  exact ⟨_, _, getElem?_run hplace [], getElem?_run hop [],
    noWorse_check hwindow hquota hreading hdelivery hfaithful hseen⟩

end Thinning

def generousPolicy : Policy :=
  { samplePolicy with maxRequests := 3, maxRequests_pos := Nat.succ_pos 2 }

/-- The third request is denied, and takes its place in the window of the fourth. -/
def impatientRun : List Operation :=
  [.check samplePolicy "feed:a" (sampleOccasion 0 .delivered 0),
    .check samplePolicy "feed:a" (sampleOccasion 500000000 .delivered 1),
    .check samplePolicy "feed:a" (sampleOccasion 700000000 .delivered 2),
    .check samplePolicy "feed:a" (sampleOccasion 1600000000 .delivered 3)]

/-- The same without the denied request, and one request more for everyone. -/
def patientRun : List Operation :=
  [.check generousPolicy "feed:a" (sampleOccasion 0 .delivered 10),
    .check generousPolicy "feed:a" (sampleOccasion 500000000 .delivered 11),
    .check generousPolicy "feed:a" (sampleOccasion 1600000000 .delivered 13)]

def patientPlace (j : Nat) : Nat := if j < 2 then j else j + 1

theorem patientRun_thins :
    Thins samplePolicy generousPolicy "feed:a" impatientRun patientRun patientPlace
      (fun e => e.token + 10) where
  found := by
    intro j b hop
    match j, hop with
    | 0, rfl => exact ⟨_, rfl, rfl, rfl⟩
    | 1, rfl => exact ⟨_, rfl, rfl, rfl⟩
    | 2, rfl => exact ⟨_, rfl, rfl, rfl⟩
  ordered := by
    intro i j b b' hlt _ _
    unfold patientPlace
    split_ifs <;> omega

/-- The last request is allowed either way; with patience two more remain. -/
theorem patientRun_fares_no_worse :
    InStep impatientRun ∧ (run [] impatientRun).1.map remaining? = [some 1, some 0, some 0, some 0] ∧
      (run [] impatientRun).1.map isDenial = [false, false, true, false] ∧
      (run [] patientRun).1.map remaining? = [some 2, some 1, some 2] ∧
      ∃ result result', (run [] impatientRun).1[3]? = some (.checked result) ∧
        (run [] patientRun).1[2]? = some (.checked result') ∧ NoWorse result result' := by
  have hwindow : generousPolicy.window = samplePolicy.window := rfl
  have hquota : samplePolicy.maxRequests ≤ generousPolicy.maxRequests := by decide
  have honly : UsesOnly samplePolicy "feed:a" impatientRun := by decide
  have honly' : UsesOnly generousPolicy "feed:a" patientRun := by decide
  have hop : patientRun[2]? =
      some (.check generousPolicy "feed:a" (sampleOccasion 1600000000 .delivered 13)) := rfl
  have hclock : InStep impatientRun := inStep_of_latency (by decide) (by decide)
  have hclear : ∀ o, .clear "feed:a" o ∈ impatientRun → o.delivery.applies = false := by
    intro o ho
    simp [impatientRun] at ho
  have hhealthy : ∀ o, .check samplePolicy "feed:a" o ∈ impatientRun →
      o.delivery = .delivered := by
    intro o ho
    simp only [impatientRun, List.mem_cons, List.not_mem_nil, or_false, check.injEq] at ho
    rcases ho with ⟨-, -, rfl⟩ | ⟨-, -, rfl⟩ | ⟨-, -, rfl⟩ | ⟨-, -, rfl⟩ <;> rfl
  exact ⟨hclock, by decide +kernel, by decide +kernel, by decide +kernel,
    run_thinned hwindow hquota hclock honly honly' hclear hhealthy patientRun_thins hop rfl⟩

end Operation

end RateLimit.Counter
