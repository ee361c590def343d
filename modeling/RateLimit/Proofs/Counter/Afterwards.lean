import RateLimit.Proofs.Counter.Retention
import RateLimit.Proofs.Counter.RoundTrip

/-!
# Right after a check or a clearing

A check that is counted adds one to what is seen at its reading, `seen_recorded`, so an
inspection at this reading answers one more than the check counted. After a clearing there
is nothing to be seen. Neither is a matter of how the store came about: it may hold anything
but the entry that the check records.
-/

namespace RateLimit

open Number (Binary64)
open Number.Binary64

theorem Policy.windowNs_lt (p : Policy) : p.windowNs < 2 ^ 77 := by
  have h := p.window.isSpan
  unfold IsSpan dayLimit dayMicroseconds at h
  unfold windowNs Span.nanoseconds
  omega

/-- A window lasts for a microsecond at least. -/
theorem Policy.le_windowNs (p : Policy) : 1000 ≤ p.windowNs := by
  have := p.window_pos
  unfold windowNs Span.nanoseconds
  omega

namespace Counter

variable {p : Policy} {key : String} {o o' : Occasion} {s : Store} {ttl : Int}

/-- A reading below 2 ^ 61 has all its numbers, however long the window. -/
theorem isSome_of_reading (p : Policy) {n : Int} (hnonneg : 0 ≤ n) (hlt : n < 2 ^ 61) :
    (ofInt? (n - p.windowNs)).isSome = true ∧ (ofInt? (n + p.windowNs)).isSome = true := by
  have hpos := p.windowNs_pos
  have hwindow := p.windowNs_lt
  have hlow : (ofInt? (-2 ^ 78)).isSome = true := by decide +kernel
  have hhigh : (ofInt? (2 ^ 78)).isSome = true := by decide +kernel
  exact ⟨ofInt?_isSome_of_between (by omega) (by omega) hlow hhigh,
    ofInt?_isSome_of_between (by omega) (by omega) hlow hhigh⟩

theorem fits_of_reading (httl : p.keyTtl? = .ok ttl) {n : Int} (hnonneg : 0 ≤ n)
    (hlt : n < 2 ^ 61) : fits p n = true :=
  fits_iff.mpr ⟨⟨ttl, httl⟩, isSome_of_reading p hnonneg hlt⟩

/-- A reading lies in its own window. -/
theorem inWindow_self (p : Policy) {n : Int} (hnonneg : 0 ≤ n) (hlt : n < 2 ^ 61) :
    inWindow p n n = true := by
  have hwindow := p.le_windowNs
  exact inWindow_of_recent hnonneg hlt (by omega)

/-- What a check records is seen at its reading, with all that it has seen itself. -/
theorem seen_recorded (hnonneg : 0 ≤ o.reading) (hlt : o.reading < 2 ^ 61)
    {w : Option Window} (hfresh : ⟨o.reading, o.token⟩ ∉ Window.held w)
    (hreading : o'.reading = o.reading) (hdeadline : o'.time < o.time + ttl * Action.second) :
    seen p o' (some (recorded p o ttl w)) = seen p o w + 1 := by
  have hlive : Window.at? o'.time (some (recorded p o ttl w)) = some (recorded p o ttl w) :=
    Window.at?_some_of_lt rfl hdeadline
  have hnew : ⟨o.reading, o.token⟩ ∉ Window.held (trimmed p o w) :=
    fun hmem => hfresh ((Operation.held_trimmed_sublist p o w).subset hmem)
  have hheld : Window.held (some (recorded p o ttl w)) =
      Window.held (trimmed p o w) ++ [⟨o.reading, o.token⟩] := by
    show (Window.add _ (trimmed p o w)).entries = _
    rw [Window.held_add, if_neg hnew]
  have hkept : ∀ e ∈ Window.held (trimmed p o w), inWindow p o.reading e.reading = true := by
    intro e he
    rw [held_trimmed_eq_filter] at he
    exact (List.mem_filter.mp he).2
  have hself := inWindow_self p hnonneg hlt
  unfold seen
  rw [held_trimmed_eq_filter p o', hlive, hheld, hreading, List.filter_append,
    List.filter_eq_self.mpr hkept]
  simp [hself]

/-- An inspection right after a check counts the request of the check, too. -/
theorem inspect_after_check (hnonneg : 0 ≤ o.reading) (hlt : o.reading < 2 ^ 61)
    (httl : p.keyTtl? = .ok ttl) (hdelivery : o.delivery = .delivered)
    (hfresh : ⟨o.reading, o.token⟩ ∉ Window.held (Table.get? s key))
    (hreading : o'.reading = o.reading) (hdeadline : o'.time < o.time + ttl * Action.second)
    (hdelivery' : o'.delivery = .delivered) :
    ∃ resetAt, (check p key o s).1 =
        .ok { decision := decide p (seen p o (Table.get? s key)) resetAt } ∧
      (inspect p key o' (check p key o s).2).1 =
        .ok ⟨seen p o (Table.get? s key) + 1, resetAt⟩ := by
  have hfits := fits_of_reading httl hnonneg hlt
  obtain ⟨resetAt, hreset, hcheck⟩ := fst_check_of_isCounted ⟨hdelivery, hfits⟩ key s
  have happlies := Delivery.applies_of_eq hdelivery
  obtain ⟨dropped, added, -, hwindow⟩ := countAndRecord_of_fits happlies httl hfits key s
  rw [← (check_of_resetAt?_ok hreset key s).1] at hwindow
  have hlimit : (ofInt? (o'.reading - p.windowNs)).isSome = true :=
    hreading ▸ (isSome_of_reading p hnonneg hlt).1
  have hinspect := fst_inspect_of_delivered hdelivery' hlimit key (check p key o s).2
  rw [hwindow, seen_recorded hnonneg hlt hfresh hreading hdeadline, hreading, hreset] at hinspect
  exact ⟨resetAt, hcheck, hinspect⟩

/-- A clearing leaves nothing under its key. -/
theorem get?_clear (hdelivery : o.delivery = .delivered) (key : String) (s : Store) :
    Table.get? (clear key o s).2 key = none := by
  have happlies := Delivery.applies_of_eq hdelivery
  rw [snd_clear]
  exact (Store.exchange_on_of_ok happlies (act_delete o.time (Table.get? s key)) _).2

theorem fst_clear_eq_ok (hdelivery : o.delivery = .delivered) (key : String) (s : Store) :
    (clear key o s).1 = .ok (Window.at? o.time (Table.get? s key)).isSome := by
  have hfaithful := Delivery.isFaithful_of_eq hdelivery
  rcases clear_cases hfaithful key s with ⟨hne, -⟩ | ⟨-, hok⟩
  · exact absurd hdelivery hne
  · exact hok

/-- A check after a clearing answers as it does in an empty store. -/
theorem check_after_clear (hdelivery : o.delivery = .delivered) (p : Policy) (key : String)
    (o' : Occasion) (s : Store) :
    (check p key o' (clear key o s).2).1 = (check p key o' []).1 :=
  (agreeOn_check (get?_clear hdelivery key s) p o').1

end Counter

end RateLimit
