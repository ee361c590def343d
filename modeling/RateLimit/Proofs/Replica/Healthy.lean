import RateLimit.Proofs.Counter.Afterwards
import RateLimit.Proofs.Replica.Traffic

/-!
# Counting with a healthy store

On a replica whose client is that of the shared store, whose round trips are not disturbed
and whose timeout is not up, `Healthy`, every operation of the counter comes to one equation:
the commands that it sends, the answer of the operation of the same name in `Counter`, and
the store that this one leaves.
-/

namespace RateLimit.Replica

open Act Counter
open Number (Binary64)

/-- A replica that reaches the shared store. -/
structure Healthy (timeout : Timeout) (r : Replica) : Prop where
  client_eq : r.counterClient.or r.client = some .shared
  calm : r.disruptions = []
  waits : timeout.isUp = false
  fits : ∃ x, timeout.seconds? = .ok x ∧ (x = .nan → r.pace = .prompt)

/-- The replica once the counter sent something. -/
def reached (traffic : List Sent) (r : Replica) : Replica :=
  { r with counterClient := some .shared, sent := r.sent ++ traffic }

/-- What a check sends: nothing but the opening of its round trip, if there is no time to
live. -/
def checkSent (p : Policy) (key : String) (entry : Entry) : List Sent :=
  .opened ::
    match p.keyTtl? with
    | .ok ttl => (checkCommands p key entry ttl).map .command
    | .error _ => []

/-- What becomes of the round trip of a check that nothing disturbs. -/
def undisturbed (p : Policy) : Delivery :=
  match p.keyTtl? with
  | .ok _ => .delivered
  | .error e => .refused (.span e)

/-- What a check meets that nothing disturbs. -/
def met (r : Replica) (p : Policy) : Occasion where
  reading := r.clock.now
  time := r.clock.now + r.clock.tick
  delivery := undisturbed p
  token := r.issuedTokens

def looked (r : Replica) : Occasion where
  reading := r.clock.now
  time := r.clock.now + r.clock.tick

/-- What a clearing meets that nothing disturbs. -/
def stood (r : Replica) : Occasion where
  reading := r.clock.now
  time := r.clock.now

def atClock (clock : Clock) (r : Replica) : Replica := { r with clock }

def withStore (store : Store) (r : Replica) : Replica := { r with store }

/-- The replica after a connection to the shared store was made and closed again. -/
def disconnected (r : Replica) : Replica :=
  { r with
    issuedConnections := r.issuedConnections + 1
    closed := r.closed + 1
    closings := r.closings ++ [r.issuedConnections] }

/-- The replica after a check that nothing disturbs, but for its log. -/
def counted (p : Policy) (key : String) (r : Replica) : Replica :=
  { r.ticked.drawn.reached (checkSent p key ⟨r.clock.now, r.issuedTokens⟩) with
    store := (Counter.check p key (r.met p) r.store).2 }

/-- The replica after an inspection that nothing disturbs. -/
def inspected (p : Policy) (key : String) (r : Replica) : Replica :=
  { r.ticked.reached (.opened :: (inspectCommands p key r.clock.now).map .command) with
    store := (Counter.inspect p key r.looked r.store).2 }

/-- The replica after a clearing that nothing disturbs, but for its log. -/
def cleared (key : String) (r : Replica) : Replica :=
  { r.reached [.command (.on key .delete)] with
    store := (Counter.clear key r.stood r.store).2 }

theorem undisturbed_of_ok {p : Policy} {ttl : Int} (h : p.keyTtl? = .ok ttl) :
    undisturbed p = .delivered := by
  unfold undisturbed
  rw [h]

/-- A check that nothing disturbs is degraded for want of a time to live only. -/
theorem degraded_iff {p : Policy} {key : String} {r : Replica} {result : Check}
    (hnonneg : 0 ≤ r.clock.now) (hlt : r.clock.now < 2 ^ 61)
    (h : (Counter.check p key (r.met p) r.store).1 = .ok result) :
    result.decision.degraded = true ↔ ∃ e, p.keyTtl? = .error e := by
  cases httl : p.keyTtl? with
  | ok ttl =>
      obtain ⟨resetAt, -, hcheck⟩ := fst_check_of_isCounted
        (o := r.met p) ⟨undisturbed_of_ok httl, fits_of_reading httl hnonneg hlt⟩
        key r.store
      cases h.symm.trans hcheck
      simp [Counter.decide]
  | error e =>
      obtain ⟨resetAt, hreset⟩ :=
        resetAt?_eq_ok_of_isSome (isSome_of_reading p hnonneg hlt).2
      obtain ⟨fault, hfault⟩ := countAndRecord_of_not_sent (o := r.met p)
        (Or.inr ⟨e, httl⟩) key r.store
      have hcheck := (check_of_resetAt?_ok (o := r.met p) hreset key r.store).2.1 fault
        (congrArg Prod.fst hfault)
      cases h.symm.trans hcheck
      simp [Counter.failOpen]

theorem reached_reached (first second : List Sent) (r : Replica) :
    (r.reached first).reached second = r.reached (first ++ second) := by
  unfold reached
  rw [List.append_assoc]

theorem withRecord_eq (r : Replica) (record : Log.Record) :
    r.withRecord record =
      r.relogged ((r.withRecord record).emitted, (r.withRecord record).records) := by
  unfold withRecord relogged
  split_ifs <;> rfl

theorem on_openTrip (r : Replica) :
    (openTrip .shared).on (r.reached []) = (.ok (), r.reached [.opened]) := by
  rw [show [Sent.opened] = [] ++ [.opened] from rfl, ← reached_reached]
  rfl

namespace Healthy

variable {timeout : Timeout} {r : Replica}

/-- Health is a matter of the clients, of the planned disruptions and of the pace. -/
theorem congr {r' : Replica} (h : Healthy timeout r) (hclient : r'.client = r.client)
    (hcounter : r'.counterClient = r.counterClient)
    (hdisruptions : r'.disruptions = r.disruptions) (hpace : r'.pace = r.pace) :
    Healthy timeout r' where
  client_eq := by rw [hcounter, hclient, h.client_eq]
  calm := hdisruptions.trans h.calm
  waits := h.waits
  fits := by rw [hpace]; exact h.fits

theorem reached (h : Healthy timeout r) (traffic : List Sent) :
    Healthy timeout (r.reached traffic) :=
  ⟨rfl, h.calm, h.waits, h.fits⟩

theorem counted (h : Healthy timeout r) (p : Policy) (key : String) :
    Healthy timeout (r.counted p key) :=
  ⟨rfl, h.calm, h.waits, h.fits⟩

theorem cleared (h : Healthy timeout r) (key : String) : Healthy timeout (r.cleared key) :=
  ⟨rfl, h.calm, h.waits, h.fits⟩

theorem relogged (h : Healthy timeout r) (log : List Log.Record × List Log.Record) :
    Healthy timeout (r.relogged log) :=
  h.congr rfl rfl rfl rfl

theorem atClock (h : Healthy timeout r) (clock : Clock) : Healthy timeout (r.atClock clock) :=
  h.congr rfl rfl rfl rfl

theorem withStore (h : Healthy timeout r) (store : Store) : Healthy timeout (r.withStore store) :=
  h.congr rfl rfl rfl rfl

section Trips

variable (h : Healthy timeout r)

include h

theorem on_countingClient : countingClient.on r = (.ok .shared, r.reached []) := by
  have hnil : r.reached [] = { r with counterClient := some .shared } := by
    unfold Replica.reached
    rw [List.append_nil]
  have hclient := h.client_eq
  unfold countingClient
  rw [on_bind_of_ok r (on_get r), hnil]
  cases hcounter : r.counterClient with
  | some client =>
      rw [hcounter] at hclient
      cases hclient
      have hsame : ({ r with counterClient := some .shared } : Replica) = r := by rw [← hcounter]
      rw [hsame]
      rfl
  | none =>
      rw [hcounter] at hclient
      have hprocess : processClient.on r = (.ok .shared, r) := by
        unfold processClient
        rw [on_bind_of_ok r (on_get r), show r.client = some .shared from hclient]
        rfl
      exact on_bind_of_ok r hprocess _

theorem on_within (trip : Act Delivery) : (within timeout trip).on r = trip.on r := by
  obtain ⟨x, hx, hpace⟩ := h.fits
  unfold within
  rw [if_neg (by rw [h.waits]; decide), hx]
  dsimp only
  split_ifs with hnan
  · rw [on_unwaited, hpace hnan]
    cases trip.on r with
    | mk outcome r' => cases outcome <;> rfl
  · rfl

theorem on_dispatch (commands : List Command) :
    (dispatch .shared commands).on r =
      (.ok .delivered, { r with sent := r.sent ++ commands.map .command }) := by
  have hcalm := h.calm
  obtain ⟨settings, clock, store, disruptions⟩ := r
  cases hcalm
  rfl

theorem on_dispatch_reached (traffic : List Sent) (commands : List Command) :
    (dispatch .shared commands).on (r.reached traffic) =
      (.ok .delivered, r.reached (traffic ++ commands.map .command)) := by
  rw [(h.reached traffic).on_dispatch, ← reached_reached]
  rfl

theorem on_checkTrip (p : Policy) (key : String) (entry : Entry) :
    (checkTrip p key entry).on r =
      (.ok (undisturbed p), r.reached (checkSent p key entry)) := by
  unfold checkTrip undisturbed checkSent
  rw [on_bind_of_ok r h.on_countingClient, on_bind_of_ok _ (on_openTrip r)]
  cases p.keyTtl? with
  | error e => rfl
  | ok ttl => exact h.on_dispatch_reached [.opened] _

theorem on_checkDelivery (p : Policy) (key : String) (entry : Entry) :
    (checkDelivery timeout (checkTrip p key entry)).on r =
      (.ok (undisturbed p), r.reached (checkSent p key entry)) := by
  unfold checkDelivery
  rw [h.on_within, on_tryCatch, h.on_checkTrip]

/-- A check is that of the counter. If it fails open, which takes a policy without a time
to live, this is logged. -/
theorem on_check {p : Policy} {resetAt : Binary64} (hreset : resetAt? p r.clock.now = .ok resetAt)
    (key : String) :
    ∃ result records, (Counter.check p key (r.met p) r.store).1 = .ok result ∧
      (check timeout p key).on r = (.ok result.decision, (r.counted p key).relogged records) := by
  let r₁ := r.ticked.drawn.reached (checkSent p key ⟨r.clock.now, r.issuedTokens⟩)
  have hdrawn : Healthy timeout r.ticked.drawn := h.congr rfl rfl rfl rfl
  have hdelivery : (checkDelivery timeout (checkTrip p key ⟨r.clock.now, r.issuedTokens⟩)).on
      r.ticked.drawn = (.ok (undisturbed p), r₁) := hdrawn.on_checkDelivery p key _
  have hmet : (⟨r.clock.now, r₁.clock.now, undisturbed p, r.issuedTokens⟩ : Occasion) =
      r.met p := rfl
  have hreset' : resetAt? p (r.met p).reading = .ok resetAt := hreset
  obtain ⟨result, hresult⟩ : ∃ result, (Counter.check p key (r.met p) r.store).1 = .ok result :=
    ⟨_, congrArg Prod.fst (check_eq hreset' key r.store)⟩
  have happly : (applyToStore (Counter.check p key (r.met p))).on r₁ =
      (.ok (.ok result), r.counted p key) := by
    rw [← hresult]
    rfl
  refine ⟨result, ?_⟩
  unfold check checkThrough
  rw [on_bind_of_ok r (on_readClock r)]
  dsimp only
  rw [hreset]
  dsimp only
  rw [on_bind_of_ok _ (on_freshToken _), issuedTokens_ticked, on_bind_of_ok _ hdelivery,
    on_bind_of_ok _ (on_get _), hmet, on_bind_of_ok _ happly]
  dsimp only
  cases hcause : result.cause with
  | none => exact ⟨((r.counted p key).emitted, (r.counted p key).records), hresult, rfl⟩
  | some fault => exact ⟨_, hresult, congrArg (Prod.mk _) (withRecord_eq (r.counted p key) _)⟩

theorem on_inspect (p : Policy) (key : String) :
    (inspect timeout p key).on r =
      ((Counter.inspect p key r.looked r.store).1, r.inspected p key) := by
  let r₁ := r.ticked.reached (.opened :: (inspectCommands p key r.clock.now).map .command)
  have hticked : Healthy timeout r.ticked := h.congr rfl rfl rfl rfl
  have hdelivery : (within timeout (dispatch .shared (inspectCommands p key r.clock.now))).on
      (r.ticked.reached [.opened]) = (.ok .delivered, r₁) := by
    rw [(hticked.reached _).on_within]
    exact hticked.on_dispatch_reached [.opened] _
  unfold inspect
  rw [on_bind_of_ok r (on_readClock r), on_bind_of_ok _ hticked.on_countingClient,
    on_bind_of_ok _ (on_openTrip _), on_bind_of_ok _ hdelivery, on_bind_of_ok _ (on_get _),
    on_bind_of_ok _ (on_applyToStore _ _), on_mk_pure]
  rfl

/-- A clearing cannot fail, and it is logged. -/
theorem on_clear (key : String) :
    ∃ removed records, (Counter.clear key r.stood r.store).1 = .ok removed ∧
      (clear timeout key).on r = (.ok removed, (r.cleared key).relogged records) := by
  have hdelivery : (within timeout (dispatch .shared [.on key .delete])).on (r.reached []) =
      (.ok .delivered, r.reached [.command (.on key .delete)]) := by
    rw [(h.reached _).on_within]
    exact h.on_dispatch_reached [] _
  have hremoved := fst_clear_eq_ok (o := r.stood) rfl key r.store
  refine ⟨_, (((r.cleared key).withRecord (clearedRecord key)).emitted,
    ((r.cleared key).withRecord (clearedRecord key)).records), hremoved, ?_⟩
  unfold clear
  rw [on_bind_of_ok r h.on_countingClient, on_bind_of_ok _ hdelivery, on_bind_of_ok _ (on_get _),
    on_bind_of_ok _ (on_applyToStore _ _)]
  change on ((ExceptT.mk (pure (Counter.clear key r.stood r.store).1) : Act Bool) >>= _)
    (r.cleared key) = _
  rw [hremoved, on_bind_of_ok _ (on_mk_pure _ _), on_bind_of_ok _ (on_log _ _), on_pure]
  exact congrArg (Prod.mk _) (withRecord_eq (r.cleared key) _)

end Trips

end Healthy

/-- A replica that reaches an empty store. -/
def reaching : Replica where
  client := some .shared

theorem healthy_reaching : Healthy (.seconds (.finite 1)) reaching :=
  ⟨rfl, rfl, by decide +kernel, ⟨_, rfl, fun _ => rfl⟩⟩

end RateLimit.Replica
