import RateLimit.Policy
import RateLimit.Table

/-!
# Registries

A `Registry` is a table of policies that has a default one. `resolve` never
fails: a name that is not in the table stands for the default policy, so that a
mistaken name still limits. `get?` is the strict look-up. `configure` overlays
a list of overrides and stops at the first that makes no policy; `put` keeps the
default policy in place, so the result is a registry again.
-/

namespace RateLimit

open Number (Binary64)

/-- What a deployment sets of a policy. What it leaves out stays as it is. -/
structure Override where
  maxRequests : Option Int := none
  windowSeconds : Option Binary64 := none
  keyPrefix : Option String := none
  deriving DecidableEq, Repr

namespace Override

/-- The prefix that an override sets; an empty one sets none. -/
def prefixOr (o : Override) (fallback : String) : String :=
  match o.keyPrefix with
  | some s => if s = "" then fallback else s
  | none => fallback

/-- A number of seconds as the window of a policy. -/
def window? (seconds : Binary64) : Except PolicyError Span :=
  (Span.ofSeconds? seconds).mapError .window

/-- The policy that an override makes of the one under its name, if any. -/
def policy? (o : Override) (name : String) (base : Option Policy) :
    Except PolicyError Policy :=
  match base with
  | some p => do
    let window ←
      match o.windowSeconds with
      | some seconds => window? seconds
      | none => .ok p.window
    Policy.make? name (o.maxRequests.getD p.maxRequests) window (o.prefixOr p.keyPrefix)
  | none =>
    match o.maxRequests, o.windowSeconds with
    | some n, some seconds => do
      let window ← window? seconds
      Policy.make? name n window (o.prefixOr (Policy.defaultPrefix name))
    | _, _ => .error (.incomplete name)

end Override

/-- A table of policies with a default one. -/
structure Registry where
  policies : Table Policy
  hasDefault : policies.contains "default" = true

namespace Registry

/-- The name that unknown names stand for. -/
def defaultName : String := "default"

/-- The built-in policies. -/
def builtin : List Policy := [
  { name := "default", maxRequests := 100, window := Span.minute,
    keyPrefix := "ratelimit:default:" },
  { name := "auth", maxRequests := 5, window := Span.minute,
    keyPrefix := "ratelimit:auth:" },
  { name := "strict", maxRequests := 3, window := ⟨300000000, by decide⟩,
    keyPrefix := "ratelimit:strict:" },
  { name := "reports", maxRequests := 10, window := ⟨86400000000, by decide⟩,
    keyPrefix := "ratelimit:reports:" },
  { name := "login", maxRequests := 5, window := ⟨900000000, by decide⟩,
    keyPrefix := "ratelimit:login:" }]

/-- The policies of a list under their names. -/
def tableOf (policies : List Policy) : Table Policy :=
  Table.ofList (policies.map fun p => (p.name, p))

/-- The registry of a list of policies. -/
def ofList? (policies : List Policy) : Except PolicyError Registry :=
  if h : (tableOf policies).contains "default" = true then .ok ⟨tableOf policies, h⟩
  else .error .noDefault

/-- The registry of the built-in policies. -/
def defaults : Registry := ⟨tableOf builtin, by decide⟩

/-- Strict look-up. -/
def get? (r : Registry) (name : String) : Option Policy := Table.get? r.policies name

/-- Whether a name is in the table. -/
def contains (r : Registry) (name : String) : Bool := Table.contains r.policies name

/-- The names, in order. -/
def names (r : Registry) : List String := Table.keys r.policies

/-- The policies, in order. -/
def all (r : Registry) : List Policy := r.policies.map Prod.snd

/-- How many policies there are. -/
def size (r : Registry) : Nat := r.policies.length

/-- The policy that unknown names stand for. -/
def fallback (r : Registry) : Policy :=
  (Table.get? r.policies "default").get r.hasDefault

theorem get?_defaultName (r : Registry) : r.get? defaultName = some r.fallback :=
  (Option.some_get r.hasDefault).symm

/-- The policy of a name, if it names one. The empty name names none. -/
def lookup? (r : Registry) (name : Option String) : Option Policy :=
  match name with
  | some s => if s = "" then none else r.get? s
  | none => none

/-- The policy of a name, or the default one. -/
def resolve (r : Registry) (name : Option String) : Policy :=
  (r.lookup? name).getD r.fallback

theorem resolve_of_get? {r : Registry} {name : String} {p : Policy} (hn : name ≠ "")
    (h : r.get? name = some p) : r.resolve (some name) = p := by
  simp [resolve, lookup?, hn, h]

/-- Writes a policy under its name. -/
def put (r : Registry) (p : Policy) : Registry where
  policies := Table.put p.name p r.policies
  hasDefault := by
    by_cases h : "default" = p.name
    · simp [Table.contains, h]
    · simpa [Table.contains, Table.get?_put_of_ne h] using r.hasDefault

@[simp] theorem get?_put_self (r : Registry) (p : Policy) :
    (r.put p).get? p.name = some p := by
  simp [get?, put]

theorem get?_put_of_ne {r : Registry} {p : Policy} {name : String} (h : name ≠ p.name) :
    (r.put p).get? name = r.get? name := by
  simp [get?, put, Table.get?_put_of_ne h]

/-- What comes of a list of overrides: the policies that were configured, and
the registry unless one of them made no policy. -/
structure Configuration where
  configured : List Policy
  outcome : Except PolicyError Registry

/-- Overlays overrides one after the other. -/
def configure (r : Registry) : List (String × Override) → Configuration
  | [] => ⟨[], .ok r⟩
  | (name, o) :: rest =>
    match o.policy? name (r.get? name) with
    | .error e => ⟨[], .error e⟩
    | .ok p =>
      let later := configure (r.put p) rest
      ⟨p :: later.configured, later.outcome⟩

theorem configure_cons_of_error {r : Registry} {name : String} {o : Override}
    {e : PolicyError} (h : o.policy? name (r.get? name) = .error e)
    (rest : List (String × Override)) :
    r.configure ((name, o) :: rest) = ⟨[], .error e⟩ := by
  simp [configure, h]

theorem configure_cons_of_ok {r : Registry} {name : String} {o : Override} {p : Policy}
    (h : o.policy? name (r.get? name) = .ok p) (rest : List (String × Override)) :
    r.configure ((name, o) :: rest) =
      ⟨p :: ((r.put p).configure rest).configured, ((r.put p).configure rest).outcome⟩ := by
  simp [configure, h]

end Registry

end RateLimit
