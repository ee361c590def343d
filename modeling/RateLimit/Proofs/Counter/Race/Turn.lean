import RateLimit.Proofs.Counter.Race.Basic

/-!
# What a turn does

How far a check has come is told by the number of its answers, `pending_cases`, and a
turn takes it one command further. `Sent` says what that does to the check and to the
window of its key; other keys are left alone, `Race.step_cases`.
-/

namespace RateLimit.Counter

open Number (Binary64 ConversionError)

namespace Pipeline

/-- What a turn does to a check and to the window of its key. -/
inductive Sent (now : Int) (c : Pipeline) (w : Option Window) :
    Pipeline → Option Window → Prop where
  | idle (h : c.pending = []) : Sent now c w c w
  | failed (e : ConversionError)
      (h : Binary64.ofInt? (c.attempt.reading - c.attempt.policy.windowNs) = none ∨
        Binary64.ofInt? c.attempt.reading = none) :
      Sent now c w { c with fault := some e } (Window.at? now w)
  | trimmed (answer : Int) (h : c.answers.length = 0) :
      Sent now c w { c with answers := c.answers ++ [answer] }
        ((Window.at? now w).bind (Window.trim
          (Binary64.nearest (c.attempt.reading - c.attempt.policy.windowNs))))
  | counted (h : c.answers.length = 1) :
      Sent now c w
        { c with answers := c.answers ++ [((Window.held (Window.at? now w)).length : Int)] }
        (Window.at? now w)
  | added (answer : Int) (h : c.answers.length = 2) :
      Sent now c w { c with answers := c.answers ++ [answer] }
        (some (Window.add c.attempt.entry (Window.at? now w)))
  | renewed (answer : Int) (v : Option Window) (h : c.answers.length = 3)
      (hheld : Window.held v = Window.held (Window.at? now w)) :
      Sent now c w { c with answers := c.answers ++ [answer] } v

/-- The next command is told by the number of answers. -/
theorem pending_cases (c : Pipeline) :
    c.pending = [] ∨
      c.answers.length = 0 ∧ (∃ rest, c.pending = .on c.attempt.key
        (.trim (c.attempt.reading - c.attempt.policy.windowNs)) :: rest) ∨
      c.answers.length = 1 ∧ (∃ rest, c.pending = .on c.attempt.key .count :: rest) ∨
      c.answers.length = 2 ∧ (∃ rest, c.pending = .on c.attempt.key
        (.add c.attempt.entry) :: rest) ∨
      c.answers.length = 3 ∧ (∃ rest, c.pending = .on c.attempt.key
        (.expire c.attempt.ttl) :: rest) := by
  unfold pending
  cases c.fault with
  | some e => exact Or.inl rfl
  | none =>
      unfold Attempt.commands checkCommands trimCommand
      match c.answers.length with
      | 0 => exact Or.inr (Or.inl ⟨rfl, _, rfl⟩)
      | 1 => exact Or.inr (Or.inr (Or.inl ⟨rfl, _, rfl⟩))
      | 2 => exact Or.inr (Or.inr (Or.inr (Or.inl ⟨rfl, _, rfl⟩)))
      | 3 => exact Or.inr (Or.inr (Or.inr (Or.inr ⟨rfl, _, rfl⟩)))
      | n + 4 =>
          refine Or.inl ?_
          dsimp only
          exact List.drop_eq_nil_of_le (by simp)

theorem sent_of_error {c : Pipeline} {action : Action} {rest : List Command} {now : Int}
    {s : Store} {e : ConversionError} (hpending : c.pending = .on c.attempt.key action :: rest)
    (happly : action.apply now (Window.at? now (Table.get? s c.attempt.key)) = .error e)
    (h : Binary64.ofInt? (c.attempt.reading - c.attempt.policy.windowNs) = none ∨
      Binary64.ofInt? c.attempt.reading = none) :
    Sent now c (Table.get? s c.attempt.key) (c.send now s).1
      (Table.get? (c.send now s).2 c.attempt.key) := by
  rw [send_of_error hpending (Store.send_on_of_error happly), Store.get?_setWindow_self]
  exact .failed e h

theorem sent_send (c : Pipeline) (now : Int) (s : Store) :
    Sent now c (Table.get? s c.attempt.key) (c.send now s).1
      (Table.get? (c.send now s).2 c.attempt.key) := by
  rcases pending_cases c with
    h | ⟨hlen, rest, h⟩ | ⟨hlen, rest, h⟩ | ⟨hlen, rest, h⟩ | ⟨hlen, rest, h⟩
  · rw [send_of_done h]
    exact .idle h
  · cases hlimit : Binary64.ofInt? (c.attempt.reading - c.attempt.policy.windowNs) with
    | none => exact sent_of_error h (Action.apply_trim_of_none hlimit _ _) (Or.inl hlimit)
    | some x =>
        obtain ⟨answer, happly⟩ := Action.apply_trim (Option.isSome_of_eq_some hlimit) now
          (Window.at? now (Table.get? s c.attempt.key))
        rw [send_of_ok h (Store.send_on_of_ok happly), Store.get?_setWindow_self]
        exact .trimmed answer hlen
  · have happly := Action.apply_count now (Window.at? now (Table.get? s c.attempt.key))
    rw [send_of_ok h (Store.send_on_of_ok happly), Store.get?_setWindow_self]
    exact .counted hlen
  · cases hreading : Binary64.ofInt? c.attempt.reading with
    | none => exact sent_of_error h (Action.apply_add_of_none hreading _ _) (Or.inr hreading)
    | some x =>
        obtain ⟨answer, happly⟩ := Action.apply_add (Option.isSome_of_eq_some hreading) now
          (Window.at? now (Table.get? s c.attempt.key))
        rw [send_of_ok h (Store.send_on_of_ok happly), Store.get?_setWindow_self]
        exact .added answer hlen
  · obtain ⟨answer, v, happly, hheld⟩ := Action.apply_expire now c.attempt.ttl
      (Window.at? now (Table.get? s c.attempt.key))
    rw [send_of_ok h (Store.send_on_of_ok happly), Store.get?_setWindow_self]
    exact .renewed answer v hlen hheld

/-- A turn on one key leaves every other key alone. -/
theorem get?_send_of_ne {c : Pipeline} {key : String} (hne : key ≠ c.attempt.key) (now : Int)
    (s : Store) : Table.get? (c.send now s).2 key = Table.get? s key := by
  have hon : ∀ (action : Action) (rest : List Command),
      c.pending = .on c.attempt.key action :: rest →
        Table.get? (c.send now s).2 key = Table.get? s key := by
    intro action rest hpending
    have hsend := Store.get?_send_of_ne hne now s action
    cases h : s.send now (.on c.attempt.key action) with
    | mk result t =>
        rw [h] at hsend
        cases result with
        | error e => rw [send_of_error hpending h, hsend]
        | ok answer => rw [send_of_ok hpending h, hsend]
  rcases pending_cases c with
    h | ⟨-, rest, h⟩ | ⟨-, rest, h⟩ | ⟨-, rest, h⟩ | ⟨-, rest, h⟩
  · rw [send_of_done h]
  all_goals exact hon _ rest h

end Pipeline

namespace Race

/-- What a turn does to a race, as far as one key is concerned. -/
theorem step_cases (key : String) (r : Race) (turn : Turn) :
    r.step turn = r ∨
      ∃ c c', r.pipelines[turn.sender]? = some c ∧
        (r.step turn).pipelines = r.pipelines.set turn.sender c' ∧
        c'.attempt = c.attempt ∧
        (c.attempt.key ≠ key ∧ (r.step turn).window key = r.window key ∨
          c.attempt.key = key ∧
            c.Sent turn.time (r.window key) c' ((r.step turn).window key)) := by
  cases h : r.pipelines[turn.sender]? with
  | none => exact Or.inl (step_of_none h)
  | some c =>
      refine Or.inr ⟨c, (c.send turn.time r.store).1, rfl, ?_⟩
      rw [step_of_getElem? h]
      refine ⟨rfl, c.attempt_send _ _, ?_⟩
      unfold window
      by_cases hkey : c.attempt.key = key
      · subst hkey
        exact Or.inr ⟨rfl, c.sent_send turn.time r.store⟩
      · exact Or.inl ⟨hkey, Pipeline.get?_send_of_ne (Ne.symm hkey) _ _⟩

end Race

end RateLimit.Counter
