import Mathlib.Tactic
import RateLimit.Log.Record

/-!
# What a record keeps when it is written

Writing a record adds context fields to it. Nothing else changes, `withContext_eq`, and no
field that was set is lost, `attribute?_withContext_of_some`. The id of a request is the one
that was attached to the record, or else the one that is bound,
`attribute?_requestId_withContext`. All this together is what `WrittenUnder` says of a record and
of what is written for it.
-/

namespace RateLimit.Log.Record

variable {record : Record} {name : String} {v : Value}

theorem declare_eq (record : Record) (name : String) :
    ∃ attributes, record.declare name = { record with attributes } := by
  unfold declare
  split
  · exact ⟨record.attributes, rfl⟩
  · exact ⟨_, rfl⟩

theorem foldl_declare_eq (record : Record) (names : List String) :
    ∃ attributes, names.foldl declare record = { record with attributes } := by
  induction names generalizing record with
  | nil => exact ⟨record.attributes, rfl⟩
  | cons name rest ih =>
      obtain ⟨attributes, h⟩ := declare_eq record name
      rw [List.foldl_cons, h]
      exact ih { record with attributes }

theorem withContext_eq (bound : Option String) (record : Record) :
    ∃ attributes, record.withContext bound = { record with attributes } := by
  obtain ⟨attributes, h⟩ := foldl_declare_eq record contextNames
  unfold withContext bindId
  rw [h]
  split
  · exact ⟨_, rfl⟩
  · exact ⟨attributes, rfl⟩

@[simp] theorem logger_withContext (bound : Option String) (record : Record) :
    (record.withContext bound).logger = record.logger := by
  obtain ⟨attributes, h⟩ := withContext_eq bound record
  rw [h]

@[simp] theorem level_withContext (bound : Option String) (record : Record) :
    (record.withContext bound).level = record.level := by
  obtain ⟨attributes, h⟩ := withContext_eq bound record
  rw [h]

theorem attribute?_declare (record : Record) (other name : String) :
    (record.declare other).attribute? name =
      if name = other then some ((record.attribute? name).getD .null)
      else record.attribute? name := by
  unfold declare
  cases hother : record.attribute? other with
  | some w =>
      split_ifs with heq
      · rw [heq, hother]
        rfl
      · rfl
  | none =>
      refine (Table.get?_put name other _ _).trans ?_
      split_ifs with heq
      · rw [heq, hother]
        rfl
      · rfl

/-- Each of the names has a value afterwards, and none has lost its own. -/
theorem attribute?_foldl_declare (record : Record) (names : List String) (name : String) :
    (names.foldl declare record).attribute? name =
      if name ∈ names then some ((record.attribute? name).getD .null)
      else record.attribute? name := by
  induction names generalizing record with
  | nil => rfl
  | cons other rest ih =>
      rw [List.foldl_cons, ih, attribute?_declare]
      by_cases heq : name = other <;> by_cases hmem : name ∈ rest <;> simp [heq, hmem]

theorem attribute?_bindId (hname : name ≠ "request_id") (bound : Option String)
    (record : Record) : (record.bindId bound).attribute? name = record.attribute? name := by
  unfold bindId
  split
  · exact Table.get?_put_of_ne hname _ _
  · rfl

/-- The id of a request is left out, since it is filled in if it is null. -/
theorem attribute?_withContext (hname : name ≠ "request_id") (bound : Option String)
    (record : Record) : (record.withContext bound).attribute? name =
      if name ∈ contextNames then some ((record.attribute? name).getD .null)
      else record.attribute? name := by
  unfold withContext
  rw [attribute?_bindId hname, attribute?_foldl_declare]

theorem attribute?_withContext_of_some (hname : name ≠ "request_id")
    (h : record.attribute? name = some v) (bound : Option String) :
    (record.withContext bound).attribute? name = some v := by
  rw [attribute?_withContext hname, h, Option.getD_some, ite_self]

/-- The id of a request that was attached to a record, if it is not null. -/
def ownId? (record : Record) : Option Value :=
  (record.attribute? "request_id").filter fun v => !v.isNull

theorem attribute?_requestId_foldl_declare (record : Record) :
    (contextNames.foldl declare record).attribute? "request_id" =
      some (record.ownId?.getD .null) := by
  rw [attribute?_foldl_declare, if_pos (by decide), ownId?]
  cases record.attribute? "request_id" with
  | none => rfl
  | some v =>
      cases hnull : v.isNull with
      | true =>
          obtain rfl := Value.isNull_eq_true_iff.mp hnull
          rfl
      | false => simp [Option.filter, hnull]

theorem withContext_of_ownId (h : record.ownId? = some v) (bound : Option String) :
    record.withContext bound = contextNames.foldl declare record := by
  have hdeclared := attribute?_requestId_foldl_declare record
  have hset : v ≠ .null := by
    rintro rfl
    simpa [Value.isNull] using (Option.filter_eq_some_iff.mp h).2
  unfold withContext bindId
  rw [hdeclared, h, Option.getD_some]
  split
  · rename_i hnull
    exact absurd (Option.some.inj hnull) hset
  · rfl

/-- A record keeps the id that was attached to it, and gets the one that is bound if there is
none. -/
theorem attribute?_requestId_withContext (bound : Option String) (record : Record) :
    (record.withContext bound).attribute? "request_id" =
      some (record.ownId?.getD ((bound.map Value.text).getD .null)) := by
  have hdeclared := attribute?_requestId_foldl_declare record
  cases hown : record.ownId? with
  | some v => rw [withContext_of_ownId hown, hdeclared, hown]; rfl
  | none =>
      rw [hown] at hdeclared
      unfold withContext bindId
      rw [hdeclared]
      cases bound with
      | none => exact hdeclared
      | some id => exact Table.get?_put_self _ _ _

/-- A record as it was emitted, and as it is written while an id is bound, or none. -/
structure WrittenUnder (bound : Option String) (record written : Record) : Prop where
  /-- The id is the one that was attached to the record, or else the one that is bound. -/
  requestId_eq : written.attribute? "request_id" =
    some (record.ownId?.getD ((bound.map Value.text).getD .null))
  attribute?_eq : ∀ name v, name ≠ "request_id" → record.attribute? name = some v →
    written.attribute? name = some v
  /-- Apart from what is attached to it, the record is left as it is. -/
  rest_eq : { written with attributes := record.attributes } = record

theorem writtenUnder_withContext (bound : Option String) (record : Record) :
    record.WrittenUnder bound (record.withContext bound) where
  requestId_eq := attribute?_requestId_withContext bound record
  attribute?_eq _ _ hname h := attribute?_withContext_of_some hname h bound
  rest_eq := by
    obtain ⟨attributes, h⟩ := withContext_eq bound record
    rw [h]

/-- What is bound does not matter to a record that has an id of its own. -/
theorem WrittenUnder.of_ownId {bound other : Option String} {written : Record}
    (h : record.WrittenUnder bound written) (hown : record.ownId? = some v) :
    record.WrittenUnder other written where
  requestId_eq := by rw [h.requestId_eq, hown, Option.getD_some, Option.getD_some]
  attribute?_eq := h.attribute?_eq
  rest_eq := h.rest_eq

end RateLimit.Log.Record
