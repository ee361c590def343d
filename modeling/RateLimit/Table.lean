/-!
# Tables

A `Table α` is a list of named values in the order in which the names were first
written. `get? t k` is the first value under the name `k`; `put` replaces a
value in its place or adds it at the end, so that a name keeps its first
position and its last value; `erase` drops a name. A list of pairs with several
values under a name makes a table of the last ones, `ofList`, or of the first
ones, `ofFirst`. The lemmas say what each
operation does to `get?` and to `keys`.
-/

namespace RateLimit

/-- Named values, in order. -/
abbrev Table (α : Type) := List (String × α)

namespace Table

variable {α : Type}

/-- The value under a name. -/
def get? : Table α → String → Option α
  | [], _ => none
  | (j, v) :: t, k => if j = k then some v else get? t k

/-- Writes a value under a name. -/
def put (k : String) (v : α) : Table α → Table α
  | [] => [(k, v)]
  | (j, w) :: t => if j = k then (j, v) :: t else (j, w) :: put k v t

/-- Drops a name. -/
def erase (k : String) : Table α → Table α
  | [] => []
  | (j, v) :: t => if j = k then erase k t else (j, v) :: erase k t

/-- The names, in order. -/
def keys (t : Table α) : List String := t.map Prod.fst

/-- Whether a name has a value. -/
def contains (t : Table α) (k : String) : Bool := (get? t k).isSome

/-- The table that is left after writing a list of pairs one by one. -/
def ofList (pairs : List (String × α)) : Table α :=
  pairs.foldl (fun t p => put p.1 p.2 t) []

/-- The table of the first value under each name of a list of pairs. -/
def ofFirst (pairs : List (String × α)) : Table α :=
  pairs.foldl (fun t p => if contains t p.1 then t else put p.1 p.2 t) []

@[simp] theorem get?_nil (k : String) : get? ([] : Table α) k = none := rfl

theorem get?_cons (j : String) (v : α) (t : Table α) (k : String) :
    get? ((j, v) :: t) k = if j = k then some v else get? t k := rfl

@[simp] theorem get?_put_self (k : String) (v : α) (t : Table α) :
    get? (put k v t) k = some v := by
  induction t with
  | nil => simp [put, get?]
  | cons p t ih =>
    obtain ⟨j, w⟩ := p
    by_cases h : j = k <;> simp [put, get?, h, ih]

theorem get?_put_of_ne {j k : String} (h : j ≠ k) (v : α) (t : Table α) :
    get? (put k v t) j = get? t j := by
  induction t with
  | nil => simp [put, get?, h.symm]
  | cons p t ih =>
    obtain ⟨i, w⟩ := p
    by_cases hk : i = k
    · subst hk; simp [put, get?, h.symm]
    · simp [put, get?, hk, ih]

/-- Writing changes what is under one name. -/
theorem get?_put (j k : String) (v : α) (t : Table α) :
    get? (put k v t) j = if j = k then some v else get? t j := by
  by_cases h : j = k
  · subst h; simp
  · simp [h, get?_put_of_ne h]

@[simp] theorem get?_erase_self (k : String) (t : Table α) :
    get? (erase k t) k = none := by
  induction t with
  | nil => rfl
  | cons p t ih =>
    obtain ⟨j, w⟩ := p
    by_cases h : j = k <;> simp [erase, get?, h, ih]

theorem get?_erase_of_ne {j k : String} (h : j ≠ k) (t : Table α) :
    get? (erase k t) j = get? t j := by
  induction t with
  | nil => rfl
  | cons p t ih =>
    obtain ⟨i, w⟩ := p
    by_cases hk : i = k
    · subst hk; simp [erase, get?, h.symm, ih]
    · simp [erase, get?, hk, ih]

theorem get?_eq_none_iff {t : Table α} {k : String} :
    get? t k = none ↔ k ∉ keys t := by
  induction t with
  | nil => simp [keys]
  | cons p t ih =>
    obtain ⟨j, w⟩ := p
    by_cases h : j = k
    · simp [get?, keys, h]
    · have hk : k ≠ j := Ne.symm h
      simpa [get?, keys, h, hk] using ih

/-- A new name comes last, a known one stays where it is. -/
theorem keys_put (k : String) (v : α) (t : Table α) :
    keys (put k v t) = if k ∈ keys t then keys t else keys t ++ [k] := by
  induction t with
  | nil => simp [put, keys]
  | cons p t ih =>
    obtain ⟨j, w⟩ := p
    by_cases h : j = k
    · simp [put, keys, h]
    · have hk : k ≠ j := Ne.symm h
      simp only [keys] at ih ⊢
      by_cases hm : k ∈ List.map Prod.fst t <;> simp [put, h, hk, hm, ih]

end Table

end RateLimit
