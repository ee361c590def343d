import RateLimit.Proofs.Counter.Check

/-!
# Racing checks

The four commands of a check reach the store together, but the store may apply the
commands of other checks in between. A `Race` is a store with checks that are under
way; at each `Turn` one of them has its next command applied, at any time of the store,
and any list of turns is a run. A check that has all its turns in a row is
`Counter.check`, `run_alone`.
-/

namespace RateLimit.Counter

open Number (Binary64 ConversionError)

/-- A check that has read its clock: its commands are settled before the first one is
sent. -/
structure Attempt where
  policy : Policy
  key : String
  entry : Entry
  ttl : Int
  keyTtl_eq : policy.keyTtl? = .ok ttl

namespace Attempt

def reading (x : Attempt) : Int := x.entry.reading

def commands (x : Attempt) : List Command := checkCommands x.policy x.key x.entry x.ttl

/-- Whether an attempt is made on a key, at a reading between two bounds. -/
def isNear (key : String) (a b : Int) (x : Attempt) : Bool :=
  Decidable.decide (x.key = key ∧ a ≤ x.reading ∧ x.reading ≤ b)

theorem isNear_iff {key : String} {a b : Int} {x : Attempt} :
    x.isNear key a b = true ↔ x.key = key ∧ a ≤ x.reading ∧ x.reading ≤ b :=
  decide_eq_true_iff

end Attempt

/-- An attempt under way, with the answers that the store has given so far. -/
structure Pipeline where
  attempt : Attempt
  answers : List Int := []
  fault : Option ConversionError := none

namespace Pipeline

/-- The commands that are still to be applied. The store goes no further than a command
that fails. -/
def pending (c : Pipeline) : List Command :=
  match c.fault with
  | none => c.attempt.commands.drop c.answers.length
  | some _ => []

/-- The decision, which is settled once the count is taken. -/
def decision? (c : Pipeline) : Option Decision :=
  match c.answers[1]?, resetAt? c.attempt.policy c.attempt.reading with
  | some count, .ok resetAt => some (decide c.attempt.policy count resetAt)
  | _, _ => none

/-- Whether the count is taken and the entry not yet added. -/
def isBetween (c : Pipeline) : Bool := c.answers.length == 2

/-- Whether the entry is added. -/
def isWritten (c : Pipeline) : Bool := 3 ≤ c.answers.length

/-- Whether the decision is settled and lets the request pass. -/
def isAllowed (c : Pipeline) : Bool := c.decision?.any (·.allowed)

/-- Applies the next command at a time of the store. -/
def send (now : Int) (c : Pipeline) (s : Store) : Pipeline × Store :=
  match c.pending with
  | [] => (c, s)
  | command :: _ =>
      match s.send now command with
      | (.ok answer, s) => ({ c with answers := c.answers ++ [answer] }, s)
      | (.error e, s) => ({ c with fault := some e }, s)

end Pipeline

/-- Whose next command is applied, and when. -/
structure Turn where
  sender : Nat
  time : Int
  deriving Repr

/-- A store, and attempts under way. -/
structure Race where
  store : Store
  pipelines : List Pipeline

namespace Race

def start (s : Store) (attempts : List Attempt) : Race :=
  ⟨s, attempts.map fun x => { attempt := x }⟩

def step (r : Race) (turn : Turn) : Race :=
  match r.pipelines[turn.sender]? with
  | none => r
  | some c =>
      let (c, s) := c.send turn.time r.store
      ⟨s, r.pipelines.set turn.sender c⟩

def run (r : Race) (turns : List Turn) : Race := turns.foldl step r

/-- What the store holds under a key. -/
def window (key : String) (r : Race) : Option Window := Table.get? r.store key

def attempts (r : Race) : List Attempt := r.pipelines.map Pipeline.attempt

/-- How many checks on a key have been counted but not yet added. -/
def between (key : String) (r : Race) : Nat :=
  r.pipelines.countP fun c => c.attempt.key == key && c.isBetween

/-- How many checks on a key, at readings between two bounds, are allowed. -/
def allowed (key : String) (a b : Int) (r : Race) : Nat :=
  r.pipelines.countP fun c => c.attempt.isNear key a b && c.isAllowed

@[simp] theorem run_nil (r : Race) : r.run [] = r := rfl

@[simp] theorem run_cons (r : Race) (turn : Turn) (turns : List Turn) :
    r.run (turn :: turns) = (r.step turn).run turns := rfl

@[simp] theorem attempts_start (s : Store) (attempts : List Attempt) :
    (start s attempts).attempts = attempts := by
  simp [start, Race.attempts, Function.comp_def]

end Race

namespace Pipeline

theorem send_of_done {c : Pipeline} (h : c.pending = []) (now : Int) (s : Store) :
    c.send now s = (c, s) := by
  unfold send
  rw [h]

theorem send_of_ok {c : Pipeline} {command : Command} {rest : List Command} {now : Int}
    {s t : Store} {answer : Int} (h : c.pending = command :: rest)
    (hsend : s.send now command = (.ok answer, t)) :
    c.send now s = ({ c with answers := c.answers ++ [answer] }, t) := by
  unfold send
  rw [h]
  dsimp only
  rw [hsend]

theorem send_of_error {c : Pipeline} {command : Command} {rest : List Command} {now : Int}
    {s t : Store} {e : ConversionError} (h : c.pending = command :: rest)
    (hsend : s.send now command = (.error e, t)) :
    c.send now s = ({ c with fault := some e }, t) := by
  unfold send
  rw [h]
  dsimp only
  rw [hsend]

theorem attempt_send (c : Pipeline) (now : Int) (s : Store) :
    (c.send now s).1.attempt = c.attempt := by
  unfold send
  split
  · rfl
  · split <;> rfl

theorem pending_of_cons {c : Pipeline} {command : Command} {rest : List Command}
    (h : c.pending = command :: rest) :
    c.fault = none ∧ c.attempt.commands.drop c.answers.length = command :: rest := by
  unfold pending at h
  cases hfault : c.fault with
  | none =>
      rw [hfault] at h
      exact ⟨rfl, h⟩
  | some e =>
      rw [hfault] at h
      cases h

/-- What an answer leaves to be done. -/
theorem pending_answered {c : Pipeline} {command : Command} {rest : List Command}
    (h : c.pending = command :: rest) (answer : Int) :
    ({ c with answers := c.answers ++ [answer] } : Pipeline).pending = rest := by
  obtain ⟨hfault, hdrop⟩ := pending_of_cons h
  unfold pending
  dsimp only
  rw [hfault]
  dsimp only
  rw [List.length_append, List.length_singleton, ← List.drop_drop, hdrop]
  rfl

end Pipeline

namespace Race

theorem step_of_getElem? {r : Race} {turn : Turn} {c : Pipeline}
    (h : r.pipelines[turn.sender]? = some c) :
    r.step turn =
      ⟨(c.send turn.time r.store).2,
        r.pipelines.set turn.sender (c.send turn.time r.store).1⟩ := by
  unfold step
  rw [h]

theorem step_of_none {r : Race} {turn : Turn} (h : r.pipelines[turn.sender]? = none) :
    r.step turn = r := by
  unfold step
  rw [h]

theorem attempts_step (r : Race) (turn : Turn) : (r.step turn).attempts = r.attempts := by
  cases h : r.pipelines[turn.sender]? with
  | none => rw [step_of_none h]
  | some c =>
      obtain ⟨hlt, rfl⟩ := List.getElem?_eq_some_iff.mp h
      rw [step_of_getElem? h]
      unfold attempts
      have hlt' : turn.sender < (r.pipelines.map Pipeline.attempt).length := by
        rwa [List.length_map]
      have hsame : r.pipelines[turn.sender].attempt =
          (r.pipelines.map Pipeline.attempt)[turn.sender] :=
        (List.getElem_map Pipeline.attempt).symm
      rw [List.map_set, Pipeline.attempt_send, hsame, List.set_getElem_self]

/-- A race is over when nothing is pending. -/
theorem run_of_done {r : Race} (h : ∀ c ∈ r.pipelines, c.pending = []) (turns : List Turn) :
    r.run turns = r := by
  induction turns with
  | nil => rfl
  | cons turn rest ih =>
      have hstep : r.step turn = r := by
        cases hturn : r.pipelines[turn.sender]? with
        | none => exact step_of_none hturn
        | some c =>
            obtain ⟨hlt, rfl⟩ := List.getElem?_eq_some_iff.mp hturn
            have hdone := h _ (List.getElem_mem hlt)
            rw [step_of_getElem? hturn, Pipeline.send_of_done hdone, List.set_getElem_self]
      rw [run_cons, hstep, ih]

/-- A check that has all its turns in a row sends its commands as one. -/
theorem run_replicate (c : Pipeline) (now : Int) (s : Store) :
    (run ⟨s, [c]⟩ (List.replicate c.pending.length ⟨0, now⟩)).store =
        (s.sendAll now c.pending).2 ∧
      ∀ answers, (s.sendAll now c.pending).1 = .ok answers →
        (run ⟨s, [c]⟩ (List.replicate c.pending.length ⟨0, now⟩)).pipelines =
          [{ c with answers := c.answers ++ answers }] := by
  induction hpending : c.pending generalizing c s with
  | nil =>
      refine ⟨rfl, ?_⟩
      rintro answers ⟨⟩
      rw [List.append_nil]
      rfl
  | cons command rest ih =>
      have hfirst : (⟨s, [c]⟩ : Race).pipelines[(⟨0, now⟩ : Turn).sender]? = some c := rfl
      rw [List.length_cons, List.replicate_succ, run_cons, step_of_getElem? hfirst,
        Store.sendAll]
      cases hsend : s.send now command with
      | mk result t =>
          cases result with
          | error e =>
              rw [Pipeline.send_of_error hpending hsend, run_of_done]
              · refine ⟨rfl, ?_⟩
                intro answers hanswers
                cases hanswers
              · intro x hx
                rw [List.mem_singleton.mp hx]
                rfl
          | ok answer =>
              rw [Pipeline.send_of_ok hpending hsend]
              have hrest := ih { c with answers := c.answers ++ [answer] } t
                (Pipeline.pending_answered hpending answer)
              dsimp only [List.set_cons_zero] at hrest ⊢
              cases hsends : t.sendAll now rest with
              | mk results u =>
                  rw [hsends] at hrest
                  cases results with
                  | error e =>
                      refine ⟨hrest.1, ?_⟩
                      intro answers hanswers
                      cases hanswers
                  | ok answers =>
                      refine ⟨hrest.1, ?_⟩
                      rintro _ ⟨⟩
                      rw [hrest.2 answers rfl, List.append_assoc]
                      rfl

/-- A check that has all its turns in a row does what `Counter.check` does. -/
theorem run_alone (x : Attempt) (hfits : fits x.policy x.reading = true) (now : Int)
    (s : Store) :
    let r := run (start s [x]) (List.replicate 4 ⟨0, now⟩)
    let o : Occasion := { reading := x.reading, time := now, token := x.entry.token }
    r.store = (check x.policy x.key o s).2 ∧
      ∃ d, r.pipelines.map Pipeline.decision? = [some d] ∧
        (check x.policy x.key o s).1 = .ok { decision := d } := by
  intro r o
  obtain ⟨-, hlimit, hreset⟩ := fits_iff.mp hfits
  have hpos := x.policy.windowNs_pos
  have hreading : (Binary64.ofInt? x.reading).isSome = true :=
    Binary64.ofInt?_isSome_of_between (by omega) (by omega) hlimit hreset
  obtain ⟨resetAt, hresetAt⟩ := resetAt?_eq_ok_of_isSome hreset
  obtain ⟨hstore, -, hdecision⟩ := check_of_resetAt?_ok (o := o) hresetAt x.key s
  obtain ⟨dropped, added, hact⟩ :=
    act_checkActions (o := o) hlimit hreading x.ttl (Table.get? s x.key)
  have hsends := (Store.sendAll_on now x.key _ s).1.trans (congrArg Prod.fst hact)
  obtain ⟨hleft, hanswers⟩ := run_replicate { attempt := x } now s
  have hcounted := countAndRecord_of_isCounted (p := x.policy) (o := o) ⟨rfl, hfits⟩ x.key s
  refine ⟨?_, _, ?_, hdecision _ hcounted⟩
  · refine hleft.trans ?_
    rw [hstore, countAndRecord_of_applies (o := o) rfl x.keyTtl_eq]
    exact (Store.snd_exchange_of_applies rfl _ _ _ _).symm
  · have hpipelines : r.pipelines = [{ attempt := x, answers := _ }] := hanswers _ hsends
    rw [hpipelines, List.map_singleton]
    unfold Pipeline.decision?
    dsimp only
    rw [hresetAt]
    rfl

end Race

end RateLimit.Counter
