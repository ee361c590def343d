import RateLimit.Proofs.Replica.Counting
import RateLimit.Proofs.Replica.Steady

/-!
# The commands that a check sends

An act keeps a part of the replica, `Act.Keeps`, or it adds to what was sent, `Act.Sends`.
A check opens one round trip and sends the commands of one check in it, or it stops on the
way there: `sent_check`. What it does besides changes no settings.
-/

namespace RateLimit

variable {α β γ : Type}

namespace Act

/-- An act that does not change a part of the replica. -/
def Keeps (part : Replica → γ) (x : Act α) : Prop := ∀ r, part (x.on r).2 = part r

/-- An act that sends something of a kind. -/
def Sends (P : List Sent → Prop) (x : Act α) : Prop :=
  ∀ r, ∃ traffic, P traffic ∧ (x.on r).2.sent = r.sent ++ traffic

section Keeps

variable {part : Replica → γ}

theorem keeps_pure (a : α) : Keeps part (pure a : Act α) := fun _ => rfl

theorem keeps_throw (fault : Fault) : Keeps part (throw fault : Act α) := fun _ => rfl

theorem keeps_get : Keeps part (get : Act Replica) := fun _ => rfl

theorem Keeps.bind {x : Act α} {f : α → Act β} (hx : Keeps part x)
    (hf : ∀ a, Keeps part (f a)) : Keeps part (x >>= f) :=
  related_bind (R := fun r r' => part r' = part r) (fun h h' => h'.trans h) hx hf

end Keeps

section Sends

variable {P : List Sent → Prop}

theorem Keeps.sends {x : Act α} (hx : Keeps Replica.sent x) (hnil : P []) : Sends P x :=
  fun r => ⟨[], hnil, by rw [hx r, List.append_nil]⟩

theorem Keeps.bind_sends {x : Act α} {f : α → Act β} (hx : Keeps Replica.sent x)
    (hf : ∀ a, Sends P (f a)) (hnil : P []) : Sends P (x >>= f) := by
  intro r
  have hfirst := hx r
  rw [on_bind]
  cases h : x.on r with
  | mk result r' =>
      rw [h] at hfirst
      cases result with
      | error fault => exact ⟨[], hnil, by rw [List.append_nil]; exact hfirst⟩
      | ok a =>
          obtain ⟨traffic, htraffic, hsent⟩ := hf a r'
          exact ⟨traffic, htraffic, hsent.trans (congrArg (· ++ traffic) hfirst)⟩

theorem Sends.bind_keeps {x : Act α} {f : α → Act β} (hx : Sends P x)
    (hf : ∀ a, Keeps Replica.sent (f a)) : Sends P (x >>= f) := by
  intro r
  obtain ⟨traffic, htraffic, hsent⟩ := hx r
  refine ⟨traffic, htraffic, ?_⟩
  rw [on_bind]
  cases h : x.on r with
  | mk result r' =>
      rw [h] at hsent
      cases result with
      | error fault => exact hsent
      | ok a => exact (hf a r').trans hsent

theorem Sends.tryCatch {x : Act α} {f : Fault → Act α} (hx : Sends P x)
    (hf : ∀ fault, Keeps Replica.sent (f fault)) : Sends P (tryCatch x f) := by
  intro r
  obtain ⟨traffic, htraffic, hsent⟩ := hx r
  refine ⟨traffic, htraffic, ?_⟩
  rw [on_tryCatch]
  cases h : x.on r with
  | mk result r' =>
      rw [h] at hsent
      cases result with
      | error fault => exact (hf fault r').trans hsent
      | ok a => exact hsent

end Sends

end Act

namespace Replica

open Act Counter
open Number (Binary64)

/-- What one check of an entry may send: all of its commands, only the opening of its round
trip, or nothing. -/
inductive CheckTraffic (p : Policy) (key : String) (entry : Entry) : List Sent → Prop where
  | none : CheckTraffic p key entry []
  | opened : CheckTraffic p key entry [.opened]
  | commands {ttl : Int} (h : p.keyTtl? = .ok ttl) :
      CheckTraffic p key entry
        (.opened :: (checkCommands p key entry ttl).map .command)

@[simp] theorem settings_withRecord (r : Replica) (record : Log.Record) :
    (r.withRecord record).settings = r.settings := by
  unfold withRecord
  split_ifs <;> rfl

@[simp] theorem sent_withRecord (r : Replica) (record : Log.Record) :
    (r.withRecord record).sent = r.sent := by
  unfold withRecord
  split_ifs <;> rfl

@[simp] theorem issuedTokens_withRecord (r : Replica) (record : Log.Record) :
    (r.withRecord record).issuedTokens = r.issuedTokens := by
  unfold withRecord
  split_ifs <;> rfl

/-- A part of a replica that neither logging nor connecting has to do with. -/
structure Lasting (part : Replica → γ) : Prop where
  withRecord_eq : ∀ r record, part (r.withRecord record) = part r
  issuedConnections_eq : ∀ r n, part { r with issuedConnections := n } = part r
  client_eq : ∀ r client, part { r with client } = part r
  counterClient_eq : ∀ r counterClient, part { r with counterClient } = part r

theorem lasting_sent : Lasting sent :=
  ⟨sent_withRecord, fun _ _ => rfl, fun _ _ => rfl, fun _ _ => rfl⟩

namespace Lasting

variable {part : Replica → γ}

theorem log (h : Lasting part) (record : Log.Record) : Keeps part (log record) :=
  fun r => h.withRecord_eq r record

theorem connect (h : Lasting part) (url : Option String)
    (socketTimeout connectTimeout : Option Binary64) :
    Keeps part (connect url socketTimeout connectTimeout) := by
  intro r
  unfold Replica.connect
  rw [on_bind_of_ok r (on_get r)]
  dsimp only
  cases Address.read? ((url.filter (· ≠ "")).getD r.settings.storeUrl) with
  | error e => rfl
  | ok address => exact h.issuedConnections_eq r _

theorem makeClient (h : Lasting part) : Keeps part makeClient := by
  refine (h.connect none none none).bind fun connection => ?_
  refine Keeps.bind (fun r => h.client_eq r _) fun _ => keeps_get.bind fun r => ?_
  cases Address.redact? r.settings.storeUrl with
  | error e => exact keeps_throw _
  | ok url => exact (h.log _).bind fun _ => keeps_pure _

theorem processClient (h : Lasting part) : Keeps part processClient := by
  refine keeps_get.bind fun r => ?_
  cases r.client with
  | some client => exact keeps_pure client
  | none => exact h.makeClient

theorem countingClient (h : Lasting part) : Keeps part countingClient := by
  refine keeps_get.bind fun r => ?_
  cases r.counterClient with
  | some client => exact keeps_pure client
  | none =>
      exact h.processClient.bind fun _ =>
        Keeps.bind (fun r => h.counterClient_eq r _) fun _ => keeps_pure _

end Lasting

/-- The client decides whether the round trip is opened, the time to live whether it gets
as far as the commands. -/
theorem sends_checkTrip (p : Policy) (key : String) (entry : Entry) :
    Sends (CheckTraffic p key entry) (checkTrip p key entry) := by
  refine lasting_sent.countingClient.bind_sends (fun client => ?_) .none
  cases client with
  | elsewhere connection =>
      refine (Keeps.bind (keeps_pure _) fun _ => ?_).sends .none
      cases p.keyTtl? <;> exact keeps_pure _
  | shared =>
      intro r
      rw [on_bind_of_ok r (show (openTrip .shared).on r = (.ok (), _) from rfl)]
      cases httl : p.keyTtl? with
      | error e => exact ⟨_, .opened, rfl⟩
      | ok ttl => exact ⟨_, .commands httl, List.append_assoc _ _ _⟩

theorem sends_checkDelivery {P : List Sent → Prop} {trip : Act Delivery} (htrip : Sends P trip)
    (hnil : P []) (timeout : Timeout) : Sends P (checkDelivery timeout trip) := by
  intro r
  unfold checkDelivery
  rcases snd_on_within timeout _ r with h | h <;> rw [h]
  · exact ⟨[], hnil, (List.append_nil _).symm⟩
  · exact (htrip.tryCatch fun fault => keeps_pure _) r

/-- The end of a check: what degraded it is logged. -/
def conclude (p : Policy) (key : String) :
    Except Number.ConversionError Check → Act Decision
  | .error e => throw (.conversion e)
  | .ok result => do
    match result.cause with
    | some fault => log (degradedRecord p key fault)
    | none => pure ()
    return result.decision

theorem keeps_sent_conclude (p : Policy) (key : String)
    (outcome : Except Number.ConversionError Check) :
    Keeps Replica.sent (conclude p key outcome) := by
  cases outcome with
  | error e => exact keeps_throw _
  | ok result =>
      unfold conclude
      dsimp only
      cases result.cause with
      | none => exact keeps_pure _
      | some fault => exact (lasting_sent.log _).bind fun _ => keeps_pure _

/-- Once the round trip of a check is over, only the store and the log change. -/
theorem keeps_sent_checkThrough_end (p : Policy) (key : String) (reading : Int) (token : Nat)
    (delivery : Delivery) :
    Keeps Replica.sent (do
      let time := (← get).clock.now
      conclude p key (← applyToStore (Counter.check p key ⟨reading, time, delivery, token⟩))) :=
  keeps_get.bind fun _ => Keeps.bind (fun _ => rfl) fun outcome =>
    keeps_sent_conclude p key outcome

/-- Whatever a check meets, it sends no more than the commands of one check. -/
theorem sent_check (timeout : Timeout) (p : Policy) (key : String) (r : Replica) :
    ∃ traffic, CheckTraffic p key ⟨r.clock.now, r.issuedTokens⟩ traffic ∧
      ((check timeout p key).on r).2.sent = r.sent ++ traffic := by
  unfold check checkThrough
  rw [on_bind_of_ok r (on_readClock r)]
  cases resetAt? p r.clock.now with
  | error e => exact ⟨[], .none, (List.append_nil _).symm⟩
  | ok resetAt =>
      dsimp only
      rw [on_bind_of_ok _ (on_freshToken _), issuedTokens_ticked]
      exact Sends.bind_keeps (sends_checkDelivery (sends_checkTrip p key _) .none timeout)
        (keeps_sent_checkThrough_end p key _ _) r.ticked.drawn

theorem keeps_settings_check (timeout : Timeout) (p : Policy) (key : String) :
    Keeps settings (check timeout p key) := by
  intro r
  obtain ⟨emitted, hlogged⟩ := (steady_check timeout p key).logs r
  exact hlogged.settings_eq

/-- What a replica does to count one request under a key, and to decide about it. -/
structure CountsOnce (p : Policy) (key : String) (r : Replica) (d : Decision) (r' : Replica) :
    Prop where
  check_eq : ∃ o result, o.reading = r.clock.now ∧ o.token = r.issuedTokens ∧
    Counter.check p key o r.store = (.ok result, r'.store) ∧ result.decision = d
  sent_eq : ∃ traffic, CheckTraffic p key ⟨r.clock.now, r.issuedTokens⟩ traffic ∧
    r'.sent = r.sent ++ traffic
  clock_eq : r'.clock = r.ticked.clock
  settings_eq : r'.settings = r.settings

theorem exists_countsOnce (timeout : Timeout) {p : Policy} {r : Replica} {resetAt : Binary64}
    (hreset : resetAt? p r.clock.now = .ok resetAt) (key : String) :
    ∃ d r', (check timeout p key).on r = (.ok d, r') ∧ CountsOnce p key r d r' := by
  obtain ⟨r', hrun, hstore, hclock, -⟩ := on_checkThrough (aside_checkTrip p key) hreset key
  have hsent := sent_check timeout p key r
  have hsettings := keeps_settings_check timeout p key r
  rw [show (check timeout p key).on r = _ from hrun] at hsent hsettings
  refine ⟨_, r', hrun, ?_, hsent, hclock, hsettings⟩
  let o := occasionOf timeout (checkTrip p key) r
  have hreset' : resetAt? p o.reading = .ok resetAt := hreset
  have hcheck := check_eq hreset' key r.store
  rw [← hstore] at hcheck
  exact ⟨o, _, rfl, rfl, hcheck, rfl⟩

namespace CountsOnce

variable {p : Policy} {key : String} {r r' : Replica} {d : Decision}

/-- What is logged before a count or after it does not show in it. -/
theorem of_alike {s s' : Replica} (h : CountsOnce p key r d r') (hr : Alike r s)
    (hr' : Alike r' s') : CountsOnce p key s d s' := by
  obtain ⟨t, rfl⟩ := hr
  obtain ⟨t', rfl⟩ := hr'
  exact ⟨h.check_eq, h.sent_eq, h.clock_eq, h.settings_eq⟩

end CountsOnce

end Replica

end RateLimit
