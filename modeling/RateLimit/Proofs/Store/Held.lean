import Mathlib.Tactic
import RateLimit.Store.Delivery

/-!
# What the store holds under a key

`Window.held` lists the entries under a key, and none for an absent window, so that
what commands do to a window can be said of lists: trimming filters, adding appends
what is new, and from the deadline on nothing is held. A window that is there is never
empty, `Filled`.

Commands on one key act on its window alone. `Window.act` applies actions to a window
without a store around it, and `sendAll_on` says that a store that is sent the
commands answers the same and is left with the same window under the key.
-/

namespace RateLimit

open Number (Binary64 ConversionError)

namespace Window

/-- The entries under a key. -/
def held : Option Window → List Entry
  | none => []
  | some w => w.entries

@[simp] theorem held_none : held none = [] := rfl

@[simp] theorem held_some (w : Window) : held (some w) = w.entries := rfl

theorem count_eq_length_held (w : Option Window) : count w = (held w).length := by
  cases w <;> rfl

/-- Trimming keeps the entries above the limit. -/
theorem held_bind_trim (limit : Int) (w : Option Window) :
    held (w.bind (trim limit)) = (held w).filter fun e => decide (limit < e.score) := by
  cases w with
  | none => rfl
  | some w =>
      simp only [Option.bind_some, held_some, trim]
      split_ifs with h
      · rw [List.isEmpty_iff] at h
        simpa [above] using h.symm
      · rfl

theorem held_add (e : Entry) (w : Option Window) :
    (add e w).entries = if e ∈ held w then held w else held w ++ [e] := by
  cases w with
  | none => simp [add]
  | some w => by_cases h : e ∈ w.entries <;> simp [add, h]

theorem mem_entries_add (e : Entry) (w : Option Window) : e ∈ (add e w).entries := by
  rw [held_add]
  split_ifs with h
  · exact h
  · simp

theorem held_subset_add (e : Entry) (w : Option Window) : held w ⊆ (add e w).entries := by
  rw [held_add]
  split_ifs with h
  · exact List.Subset.refl _
  · exact List.subset_append_left _ _

theorem deadline_add (e : Entry) (w : Option Window) :
    (add e w).deadline = w.bind Window.deadline := by
  cases w with
  | none => rfl
  | some w => by_cases h : e ∈ w.entries <;> simp [add, h]

/-- A window is there in full or not at all. -/
theorem at?_eq_or (now : Int) (w : Option Window) : at? now w = w ∨ at? now w = none := by
  cases w with
  | none => exact Or.inl rfl
  | some w =>
      unfold at?
      by_cases h : w.deadline.all fun deadline => decide (now < deadline)
      · exact Or.inl (by simp [Option.filter, h])
      · exact Or.inr (by simp [Option.filter, h])

theorem at?_some_of_lt {now deadline : Int} {w : Window} (hw : w.deadline = some deadline)
    (h : now < deadline) : at? now (some w) = some w := by
  unfold at?
  simp [Option.filter, hw, h]

theorem at?_at? (now : Int) (w : Option Window) : at? now (at? now w) = at? now w := by
  rcases at?_eq_or now w with h | h
  · rw [h, h]
  · rw [h, at?_none]

theorem at?_eq_self_of_mem {now : Int} {w : Option Window} {e : Entry}
    (h : e ∈ held (at? now w)) : at? now w = w := by
  rcases at?_eq_or now w with heq | heq
  · exact heq
  · rw [heq] at h
    cases h

theorem held_at?_sublist (now : Int) (w : Option Window) :
    (held (at? now w)).Sublist (held w) := by
  rcases at?_eq_or now w with h | h
  · rw [h]
  · rw [h]
    exact List.nil_sublist _

/-- Trimming leaves the deadline alone, so it does not end a window early. -/
theorem at?_bind_trim {now : Int} {w : Option Window} (limit : Int) (h : at? now w = w) :
    at? now (w.bind (trim limit)) = w.bind (trim limit) := by
  cases w with
  | none => rfl
  | some w =>
      simp only [Option.bind_some, trim]
      split_ifs with hempty
      · rfl
      · unfold at? at h ⊢
        rw [Option.filter_eq_some_iff] at h ⊢
        exact ⟨rfl, h.2⟩

theorem at?_add {now : Int} {w : Option Window} (e : Entry) (h : at? now w = w) :
    at? now (some (add e w)) = some (add e w) := by
  unfold at?
  rw [Option.filter_eq_some_iff]
  refine ⟨rfl, ?_⟩
  rw [deadline_add]
  cases w with
  | none => rfl
  | some w =>
      unfold at? at h
      rw [Option.filter_eq_some_iff] at h
      exact h.2

/-- A window that is there holds an entry. -/
def Filled (w : Option Window) : Prop := w.isSome = true → held w ≠ []

theorem filled_bind_trim (limit : Int) (w : Option Window) :
    Filled (w.bind (trim limit)) := by
  intro hsome
  cases w with
  | none => cases hsome
  | some w =>
      simp only [Option.bind_some, trim] at hsome ⊢
      split_ifs at hsome ⊢ with hempty
      · cases hsome
      · simpa [List.isEmpty_iff] using hempty

theorem Filled.at? {w : Option Window} (h : Filled w) (now : Int) : Filled (at? now w) := by
  rcases at?_eq_or now w with heq | heq
  · rwa [heq]
  · rw [heq]
    exact nofun

/-- Applies actions to a window one after the other, up to the first that fails. -/
def act (now : Int) (w : Option Window) :
    List Action → Except ConversionError (List Int) × Option Window
  | [] => (.ok [], w)
  | a :: rest =>
      match a.apply now (at? now w) with
      | .error e => (.error e, at? now w)
      | .ok (answer, w) =>
          match act now w rest with
          | (.error e, w) => (.error e, w)
          | (.ok answers, w) => (.ok (answer :: answers), w)

theorem act_cons_of_error {now : Int} {w : Option Window} {a : Action}
    {e : ConversionError} (h : a.apply now (at? now w) = .error e) (rest : List Action) :
    act now w (a :: rest) = (.error e, at? now w) := by
  unfold act
  rw [h]

theorem act_cons_of_ok {now : Int} {w v : Option Window} {a : Action} {answer : Int}
    (h : a.apply now (at? now w) = .ok (answer, v)) (rest : List Action) :
    act now w (a :: rest) =
      ((act now v rest).1.map (answer :: ·), (act now v rest).2) := by
  rw [act, h]
  dsimp only
  cases hrest : act now v rest with
  | mk answers u => cases answers <;> rfl

end Window

namespace Store

theorem send_on_of_ok {now : Int} {s : Store} {key : String} {a : Action}
    {v : Option Window} {answer : Int}
    (h : a.apply now (Window.at? now (Table.get? s key)) = .ok (answer, v)) :
    send now s (.on key a) = (.ok answer, setWindow key v s) := by
  unfold send windowAt
  dsimp only
  rw [h]

theorem send_on_of_error {now : Int} {s : Store} {key : String} {a : Action}
    {e : ConversionError}
    (h : a.apply now (Window.at? now (Table.get? s key)) = .error e) :
    send now s (.on key a) =
      (.error e, setWindow key (Window.at? now (Table.get? s key)) s) := by
  unfold send windowAt
  dsimp only
  rw [h]

/-- A store that is sent commands on one key treats its window as if it were alone. -/
theorem sendAll_on (now : Int) (key : String) (actions : List Action) (s : Store) :
    (sendAll now s (actions.map (.on key))).1 =
        (Window.act now (Table.get? s key) actions).1 ∧
      Table.get? (sendAll now s (actions.map (.on key))).2 key =
        (Window.act now (Table.get? s key) actions).2 := by
  induction actions generalizing s with
  | nil => exact ⟨rfl, rfl⟩
  | cons a rest ih =>
      rw [List.map_cons, sendAll]
      cases h : a.apply now (Window.at? now (Table.get? s key)) with
      | error e =>
          rw [Window.act_cons_of_error h, send_on_of_error h]
          simp
      | ok result =>
          obtain ⟨answer, v⟩ := result
          rw [Window.act_cons_of_ok h, send_on_of_ok h]
          have hrest := ih (setWindow key v s)
          rw [get?_setWindow_self] at hrest
          dsimp only
          cases hs : sendAll now (setWindow key v s) (rest.map (.on key)) with
          | mk answers t =>
              rw [hs] at hrest
              cases answers with
              | error e => exact ⟨by rw [← hrest.1]; rfl, hrest.2⟩
              | ok answers => exact ⟨by rw [← hrest.1]; rfl, hrest.2⟩

/-- Commands on one key leave every other key alone. -/
theorem get?_sendAll_of_ne {j key : String} (hne : j ≠ key) (now : Int)
    (actions : List Action) (s : Store) :
    Table.get? (sendAll now s (actions.map (.on key))).2 j = Table.get? s j := by
  induction actions generalizing s with
  | nil => rfl
  | cons a rest ih =>
      have hsend := get?_send_of_ne hne now s a
      rw [List.map_cons, sendAll]
      cases h : send now s (.on key a) with
      | mk answer t =>
          rw [h] at hsend
          cases answer with
          | error e => exact hsend
          | ok answer =>
              have hrest := ih t
              dsimp only at hsend ⊢
              cases hs : sendAll now t (rest.map (.on key)) with
              | mk answers u =>
                  rw [hs] at hrest
                  cases answers with
                  | error e => exact hrest.trans hsend
                  | ok answers => exact hrest.trans hsend

theorem fst_exchange_of_applies {d : Delivery} (happlies : d.applies = true) (now : Int)
    (s : Store) (commands : List Command) (wrap : List Int → Json) :
    (exchange now s commands wrap d).1 =
      match (sendAll now s commands).1 with
      | .ok answers => d.receive wrap answers
      | .error e => .error (.conversion e) := by
  unfold exchange
  rw [if_pos happlies]
  cases hsend : sendAll now s commands with
  | mk result t => cases result <;> rfl

/-- A round trip leaves the store as its commands do. -/
theorem snd_exchange_of_applies {d : Delivery} (happlies : d.applies = true) (now : Int)
    (s : Store) (commands : List Command) (wrap : List Int → Json) :
    (exchange now s commands wrap d).2 = (sendAll now s commands).2 := by
  unfold exchange
  rw [if_pos happlies]
  cases hsend : sendAll now s commands with
  | mk result t => cases result <;> rfl

/-- A round trip whose actions succeed on the window. -/
theorem exchange_on_of_ok {now : Int} {s : Store} {key : String} {actions : List Action}
    {answers : List Int} {w : Option Window} {d : Delivery} (happlies : d.applies = true)
    (hact : Window.act now (Table.get? s key) actions = (.ok answers, w))
    (wrap : List Int → Json) :
    (exchange now s (actions.map (.on key)) wrap d).1 = d.receive wrap answers ∧
      Table.get? (exchange now s (actions.map (.on key)) wrap d).2 key = w := by
  obtain ⟨hresult, hwindow⟩ := sendAll_on now key actions s
  rw [hact] at hresult hwindow
  rw [fst_exchange_of_applies happlies, snd_exchange_of_applies happlies, hresult, hwindow]
  exact ⟨rfl, rfl⟩

/-- A round trip one of whose actions fails on the window. -/
theorem exchange_on_of_error {now : Int} {s : Store} {key : String}
    {actions : List Action} {e : ConversionError} {w : Option Window} {d : Delivery}
    (happlies : d.applies = true)
    (hact : Window.act now (Table.get? s key) actions = (.error e, w))
    (wrap : List Int → Json) :
    (exchange now s (actions.map (.on key)) wrap d).1 = .error (.conversion e) ∧
      Table.get? (exchange now s (actions.map (.on key)) wrap d).2 key = w := by
  obtain ⟨hresult, hwindow⟩ := sendAll_on now key actions s
  rw [hact] at hresult hwindow
  rw [fst_exchange_of_applies happlies, snd_exchange_of_applies happlies, hresult, hwindow]
  exact ⟨rfl, rfl⟩

/-- A round trip on one key leaves every other key alone. -/
theorem get?_exchange_of_ne {j key : String} (hne : j ≠ key) (now : Int)
    (actions : List Action) (s : Store) (wrap : List Int → Json) (d : Delivery) :
    Table.get? (exchange now s (actions.map (.on key)) wrap d).2 j = Table.get? s j := by
  cases happlies : d.applies with
  | true =>
      rw [snd_exchange_of_applies happlies]
      exact get?_sendAll_of_ne hne now actions s
  | false => rw [exchange_of_not_applies happlies]

end Store

end RateLimit
