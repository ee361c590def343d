import RateLimit.Registry
import RateLimit.Settings.Coercion
import RateLimit.Settings.Origins
import RateLimit.Text.Lower

/-!
# Settings

The `Settings` of a deployment come from named values: `Settings.check` takes
every field from its value or leaves it at its default, and finds all that is
wrong. `Settings.load` gathers the values first: those of the environment, where
names are matched in any case, and on top of them those given as arguments.
-/

namespace RateLimit

open Number (Binary64)

/-- The settings of a deployment. Timeouts are in seconds. -/
structure Settings where
  debug : Bool := false
  logLevel : String := "INFO"
  logFormat : String := "text"
  storeUrl : String := "redis://localhost:6379/0"
  socketTimeout : Binary64 := .finite 2
  connectTimeout : Binary64 := .finite 2
  enabled : Bool := true
  storeTimeout : Binary64 := .finite 2
  trustForwarded : Bool := false
  defaultPolicy : String := "default"
  byUser : Bool := false
  overrides : Table Override := []
  origins : List String := ["*"]
  deriving Repr, Inhabited

namespace Settings

/-- A field of the settings, or its default. -/
def field {α : Type} (given : Table Json) (name : String) (default : α)
    (read : Json → Except IssueKind α) : Checked α :=
  match Table.get? given name with
  | some v => Checked.ofExcept [name] (read v)
  | none => .valid default

/-- A timeout, which has to be positive. -/
def readTimeout (v : Json) : Except IssueKind Binary64 := do
  let x ← Coercion.readNumber v
  if x.leInt 0 then .error .timeoutSign else .ok x

/-- A timeout of the store, which must not be long either. -/
def readStoreTimeout (v : Json) : Except IssueKind Binary64 := do
  let x ← readTimeout v
  if x.gtInt 10 then .error .timeoutLength else .ok x

/-- The name of a log format, in lower case. -/
def readLogFormat (v : Json) : Except IssueKind String := do
  let s := (← Coercion.readText v).toLower
  if s = "text" ∨ s = "json" then .ok s else .error .logFormat

/-- The names of the fields of an override. -/
def overrideNames : List String := ["max_requests", "window_seconds", "key_prefix"]

/-- A field of the override of a policy. -/
def overrideField {α : Type} (place : List String) (given : Table Json) (name : String)
    (read : Json → Except IssueKind α) : Checked (Option α) :=
  match Table.get? given name with
  | some v => Checked.ofExcept (place ++ [name]) (Coercion.readOptional read v)
  | none => .valid none

/-- An override holds nothing but its fields. -/
def noOtherNames (place : List String) (given : Table Json) : Checked Unit :=
  match (Table.keys given).filter (!overrideNames.contains ·) with
  | [] => .valid ()
  | names => .invalid (names.map fun name => ⟨place ++ [name], .unknownName⟩)

/-- The override of one policy. No field of an object with a broken name is looked
at. -/
def checkOverride (place : List String) : Json → Checked Override
  | .object given =>
    (fun n seconds pre _ => (⟨n, seconds, pre⟩ : Override))
      <$> overrideField place given "max_requests" Coercion.readInteger
      <*> overrideField place given "window_seconds" Coercion.readNumber
      <*> overrideField place given "key_prefix" Coercion.readText
      <*> noOtherNames place given
  | .brokenObject _ => .invalid [⟨place, .textBroken⟩]
  | _ => .invalid [⟨place, .overrideKind⟩]

/-- The name of the field with the overrides. -/
def overridesName : String := "rate_limit_policies"

/-- The overrides of a list of named values. -/
def checkOverrides : List (String × Json) → Checked (Table Override)
  | [] => .valid []
  | (name, v) :: rest =>
    (fun o more => (name, o) :: more)
      <$> checkOverride [overridesName, name] v <*> checkOverrides rest

/-- The overrides, or none. -/
def overridesOf (given : Table Json) : Checked (Table Override) :=
  match Table.get? given overridesName with
  | none => .valid []
  | some (.object members) => checkOverrides members
  | some (.brokenObject members) =>
    checkOverrides (members.map fun m => (Text.lossyText m.1, m.2))
  | some _ => .invalid [⟨[overridesName], .tableKind⟩]

/-- The allowed origins. -/
def readOrigins (v : Json) : Except IssueKind (List String) :=
  (Origins.ofValue v).mapError .origins

/-- Takes settings from named values and finds all that is wrong with them. -/
def check (given : Table Json) : Checked Settings :=
  Settings.mk
    <$> field given "debug" false Coercion.readBool
    <*> field given "log_level" "INFO" Coercion.readText
    <*> field given "log_format" "text" readLogFormat
    <*> field given "redis_url" "redis://localhost:6379/0" Coercion.readText
    <*> field given "redis_socket_timeout" (.finite 2) readTimeout
    <*> field given "redis_connect_timeout" (.finite 2) readTimeout
    <*> field given "rate_limit_enabled" true Coercion.readBool
    <*> field given "rate_limit_store_timeout" (.finite 2) readStoreTimeout
    <*> field given "rate_limit_trust_forwarded_for" false Coercion.readBool
    <*> field given "rate_limit_default_policy" "default" Coercion.readText
    <*> field given "rate_limit_by_user" false Coercion.readBool
    <*> overridesOf given
    <*> field given "cors_origins" ["*"] readOrigins

/-- The names of all fields. -/
def names : List String :=
  ["debug", "log_level", "log_format", "redis_url", "redis_socket_timeout",
    "redis_connect_timeout", "rate_limit_enabled", "rate_limit_store_timeout",
    "rate_limit_trust_forwarded_for", "rate_limit_default_policy", "rate_limit_by_user",
    "rate_limit_policies", "cors_origins"]

/-- Why a variable cannot stand in an environment. -/
inductive VariableError where
  /-- The name or the value holds a null character, which would end it. -/
  | nullCharacter
  /-- The name holds an equals sign, which would end it. -/
  | equalsSign
  /-- The name is empty. -/
  | noName
  deriving DecidableEq, Repr

/-- The wording of the error. -/
def VariableError.message : VariableError → String
  | .nullCharacter => "embedded null byte"
  | .equalsSign => "illegal environment variable name"
  | .noName => "[Errno 22] Invalid argument"

/-- What is wrong with a variable of an environment. -/
def checkVariable (name value : String) : Except VariableError Unit :=
  if name.toList.contains '\x00' || value.toList.contains '\x00' then .error .nullCharacter
  else if name.toList.contains '=' then .error .equalsSign
  else if name = "" then .error .noName
  else .ok ()

/-- Why settings cannot be loaded. -/
inductive LoadError where
  /-- A variable cannot stand in an environment. -/
  | variable (cause : VariableError)
  /-- The value of a variable of the environment is not written as it should be. -/
  | unreadable (name : String)
  /-- A value lies too deep inside others to be read. -/
  | tooDeep (cause : JsonError)
  /-- The values are wrong. -/
  | invalid (issues : List Issue)
  deriving DecidableEq, Repr

/-- The wording of an unreadable variable. -/
def unreadableMessage (name : String) : String :=
  "error parsing value for field \"" ++ name ++ "\" from source \"EnvSettingsSource\""

/-- Names in lower case. -/
def lowerNames {α : Type} (given : List (String × α)) : List (String × α) :=
  given.map fun p => (Text.lower p.1, p.2)

/-- The value of a variable that holds a JSON text. -/
def readVariable (name text : String) : Except LoadError Json :=
  match Json.read? text with
  | .ok v => .ok v
  | .error .malformed => .error (.unreadable name)
  | .error (.longInteger _) => .error (.unreadable name)
  | .error e => .error (.tooDeep e)

/-- The values that the variables of the environment set. Of variables whose names
differ only in case the last one counts. -/
def ofEnvironment (environment : List (String × String)) :
    Except LoadError (Table Json) := do
  environment.forM fun p => (checkVariable p.1 p.2).mapError .variable
  let given := Table.ofList (lowerNames environment)
  let texts := (given.filter (·.1 ≠ overridesName)).map fun p => (p.1, Json.string p.2)
  match Table.get? given overridesName with
  | none => return texts
  | some text =>
    match ← readVariable overridesName text with
    | .null => return texts
    | v => return Table.put overridesName v texts

/-- The values that arguments set. Of arguments whose names differ only in case the
first one counts. -/
def ofArguments (arguments : List (String × Json)) : Table Json :=
  Table.ofFirst (lowerNames arguments)

mutual

/-- Lays a value over another one. Objects are joined, name by name. -/
def overlay : Json → Json → Json
  | .object base, .object top => .object (overlayMembers base top)
  | .brokenObject base, .object top => .brokenObject (overlayBroken base top)
  | _, top => top

/-- Lays the members of an object over those of another one. -/
def overlayMembers (base : List (String × Json)) :
    List (String × Json) → List (String × Json)
  | [] => base
  | (k, v) :: rest =>
    match Table.get? base k with
    | some old => overlayMembers (Table.put k (overlay old v) base) rest
    | none => overlayMembers (Table.put k v base) rest

/-- Lays the members of an object over those of a broken one. -/
def overlayBroken (base : List (List Nat × Json)) :
    List (String × Json) → List (List Nat × Json)
  | [] => base
  | (k, v) :: rest =>
    let name := k.toList.map Char.toNat
    match base.lookup name with
    | some old => overlayBroken (Json.putBroken name (overlay old v) base) rest
    | none => overlayBroken (Json.putBroken name v base) rest

end

/-- Settings from named values, unless the origins lie too deep to be read, or
something is wrong. -/
def ofValues (given : Table Json) : Except LoadError Settings :=
  match (Table.get? given "cors_origins").map Origins.ofValue with
  | some (.error .deepArray) => .error (.tooDeep .deepArray)
  | some (.error .deepObject) => .error (.tooDeep .deepObject)
  | _ => (check given).toExcept.mapError .invalid

/-- Loads settings from the environment and from arguments, which win. -/
def load (environment : List (String × String)) (arguments : List (String × Json)) :
    Except LoadError Settings := do
  let base ← ofEnvironment environment
  ofValues (overlayMembers base (ofArguments arguments))

end Settings

end RateLimit
