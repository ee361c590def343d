import RateLimit.Store.Delivery

/-!
# Counting requests

The window of a key is a log of the requests that were counted under it. A
`check` drops the entries that are older than the window, counts what is left,
records the request and renews the deadline, all in one round trip; it lets the
request pass when fewer than the quota were left. A request is recorded even if
it is denied. When anything in the round trip fails the request passes, and the
decision is degraded. `inspect` counts without recording, and `clear` drops the
window.

The operations are functions of what one operation meets, its `Occasion`, and
of the store, so that runs of them can be compared.
-/

namespace RateLimit

open Number (Binary64 ConversionError)

/-- What one operation meets: the reading of its clock, the time of the store,
what becomes of the round trip, and a fresh token. -/
structure Occasion where
  reading : Int
  time : Int
  delivery : Delivery := .delivered
  token : Nat := 0
  deriving Repr

/-- The outcome of a check, and what degraded it. -/
structure Check where
  decision : Decision
  cause : Option Fault := none
  deriving Repr

namespace Counter

/-- A reading in seconds. -/
def secondsOf? (reading : Int) : Except ConversionError Binary64 :=
  (Binary64.ofInt reading).map (·.divNat 1000000000)

/-- When the window of a reading is reported to reset, in seconds. -/
def resetAt? (p : Policy) (reading : Int) : Except ConversionError Binary64 :=
  secondsOf? (reading + p.windowNs)

/-- The command that drops the entries older than the window of a reading. -/
def trimCommand (p : Policy) (key : String) (reading : Int) : Command :=
  .on key (.trim (reading - p.windowNs))

/-- The commands of a check. The count comes after trimming and before
recording. -/
def checkCommands (p : Policy) (key : String) (entry : Entry) (ttl : Int) : List Command :=
  [trimCommand p key entry.reading, .on key .count, .on key (.add entry),
    .on key (.expire ttl)]

/-- The commands of an inspection. -/
def inspectCommands (p : Policy) (key : String) (reading : Int) : List Command :=
  [trimCommand p key reading, .on key .count]

/-- The decision on a count. -/
def decide (p : Policy) (count : Int) (resetAt : Binary64) : Decision where
  allowed := Decidable.decide (count < p.maxRequests)
  limit := p.maxRequests
  remaining := max 0 (p.maxRequests - count - 1)
  resetAt := resetAt

/-- The decision without the store. -/
def failOpen (p : Policy) (resetAt : Binary64) : Decision where
  allowed := true
  limit := p.maxRequests
  remaining := p.maxRequests
  resetAt := resetAt
  degraded := true

/-- The round trip of a check: the count, and the store that is left. -/
def countAndRecord (p : Policy) (key : String) (o : Occasion) (s : Store) :
    Except Fault Int × Store :=
  match o.delivery, p.keyTtl? with
  | .expired, _ => (.error (.timeout ""), s)
  | .refused fault, _ => (.error fault, s)
  | _, .error e => (.error (.span e), s)
  | delivery, .ok ttl =>
    let entry : Entry := ⟨o.reading, o.token⟩
    match s.exchange o.time (checkCommands p key entry ttl) Reply.ofCounts delivery with
    | (.ok reply, s) => ((Reply.count? reply).mapError .reply, s)
    | (.error fault, s) => (.error fault, s)

/-- Counts a request under a key and decides whether it may pass. It fails only
when the reset time cannot be told; then nothing was sent. -/
def check (p : Policy) (key : String) (o : Occasion) (s : Store) :
    Except ConversionError Check × Store :=
  match resetAt? p o.reading with
  | .error e => (.error e, s)
  | .ok resetAt =>
    match countAndRecord p key o s with
    | (.ok count, s) => (.ok { decision := decide p count resetAt }, s)
    | (.error fault, s) => (.ok { decision := failOpen p resetAt, cause := some fault }, s)

/-- A fault of the store during an operation on a key. -/
def explain (key : String) (fault : Fault) : Fault :=
  if fault.isStoreFault then .unavailable key (some fault) else fault

/-- Counts the entries under a key without recording a request. -/
def inspect (p : Policy) (key : String) (o : Occasion) (s : Store) :
    Except Fault WindowStatus × Store :=
  match s.exchange o.time (inspectCommands p key o.reading) Reply.ofCounts o.delivery with
  | (.error fault, s) => (.error (explain key fault), s)
  | (.ok reply, s) =>
    match Reply.count? reply with
    | .error e => (.error (.reply e), s)
    | .ok count =>
      match resetAt? p o.reading with
      | .error e => (.error (.conversion e), s)
      | .ok resetAt => (.ok ⟨count, resetAt⟩, s)

/-- Drops the window of a key, and tells whether there was one. -/
def clear (key : String) (o : Occasion) (s : Store) : Except Fault Bool × Store :=
  match s.exchange o.time [.on key .delete] Reply.ofCount o.delivery with
  | (.error fault, s) => (.error (explain key fault), s)
  | (.ok reply, s) => (.ok reply.isSet, s)

end Counter

end RateLimit
