import Mathlib.Tactic
import RateLimit.Table

/-!
# Tables as lists of pairs

A table in which no name comes twice is the list of its pairs: each of them can be looked up,
`get?_of_mem`, and writing them one by one makes the table again, `ofList_eq_self`. In tables
one after the other the first is looked up first, `get?_append`, and a table of those names
that have a value is one of just these names, `get?_filterMap` and `keys_filterMap`. Of pairs
that are written one by one the last of a name stays, `get?_ofList`, or the first,
`get?_ofFirst`.
-/

namespace RateLimit.Table

variable {α : Type} {t : Table α} {k : String} {v : α}

theorem put_of_notMem (h : k ∉ keys t) : put k v t = t ++ [(k, v)] := by
  induction t with
  | nil => rfl
  | cons first rest ih =>
      obtain ⟨j, w⟩ := first
      unfold keys at h
      rw [List.map_cons, List.mem_cons, not_or] at h
      unfold put
      rw [if_neg (Ne.symm h.1), ih h.2]
      rfl

theorem ofList_append_singleton (rest : List (String × α)) (last : String × α) :
    ofList (rest ++ [last]) = put last.1 last.2 (ofList rest) := by
  unfold ofList
  rw [List.foldl_append]
  rfl

/-- Writing the pairs of a table one by one makes the table again. -/
theorem ofList_eq_self (h : (keys t).Nodup) : ofList t = t := by
  induction t using List.reverseRecOn with
  | nil => rfl
  | append_singleton rest last ih =>
      unfold keys at h
      rw [List.map_append, List.nodup_append] at h
      obtain ⟨hrest, -, hlast⟩ := h
      rw [ofList_append_singleton, ih hrest]
      refine put_of_notMem fun hmem => ?_
      exact hlast _ hmem _ List.mem_cons_self rfl

theorem get?_of_mem (hnodup : (keys t).Nodup) (h : (k, v) ∈ t) : get? t k = some v := by
  induction t with
  | nil => cases h
  | cons first rest ih =>
      obtain ⟨j, w⟩ := first
      obtain ⟨hfirst, hrest⟩ := List.nodup_cons.mp hnodup
      rw [get?_cons]
      rcases List.mem_cons.mp h with heq | hmem
      · cases heq
        exact if_pos rfl
      · rw [if_neg, ih hrest hmem]
        rintro rfl
        exact hfirst (List.mem_map.mpr ⟨_, hmem, rfl⟩)

theorem get?_append (s t : Table α) (k : String) :
    get? (s ++ t) k = (get? s k).or (get? t k) := by
  induction s with
  | nil => rfl
  | cons first rest ih =>
      obtain ⟨j, w⟩ := first
      rw [List.cons_append, get?_cons, get?_cons, ih]
      split_ifs <;> rfl

/-- A table of those names that have a value. -/
theorem get?_filterMap (names : List String) (f : String → Option α) (k : String) :
    get? (names.filterMap fun name => (f name).map (name, ·)) k =
      if k ∈ names then f k else none := by
  induction names with
  | nil => rfl
  | cons name rest ih =>
      cases hname : f name with
      | none =>
          rw [List.filterMap_cons_none (by rw [hname]; rfl), ih]
          by_cases heq : k = name <;> simp [heq, hname]
      | some v =>
          rw [List.filterMap_cons_some (by rw [hname]; rfl), get?_cons, ih]
          by_cases heq : name = k
          · simp [← heq, hname]
          · simp [heq, Ne.symm heq]

theorem keys_filterMap (names : List String) (f : String → Option α) :
    keys (names.filterMap fun name => (f name).map (name, ·)) =
      names.filter fun name => (f name).isSome := by
  induction names with
  | nil => rfl
  | cons name rest ih =>
      unfold keys at ih ⊢
      cases hname : f name with
      | none => simp [hname, ih]
      | some v => simp [hname, ih]

theorem get?_filter_ne {j : String} (h : k ≠ j) (t : Table α) :
    get? (t.filter (·.1 ≠ j)) k = get? t k := by
  induction t with
  | nil => rfl
  | cons first rest ih =>
      obtain ⟨i, v⟩ := first
      rw [List.filter_cons, get?_cons]
      by_cases hi : i = j
      · rw [if_neg (by simpa using hi), ih, if_neg fun hik => h (hik.symm.trans hi)]
      · rw [if_pos (by simpa using hi), get?_cons, ih]

theorem get?_map {β : Type} (f : α → β) (t : Table α) (k : String) :
    get? (t.map fun p => (p.1, f p.2)) k = (get? t k).map f := by
  induction t with
  | nil => rfl
  | cons first rest ih =>
      obtain ⟨j, v⟩ := first
      rw [List.map_cons, get?_cons, get?_cons, ih]
      split_ifs <;> rfl

theorem get?_ofList (pairs : List (String × α)) (k : String) :
    get? (ofList pairs) k = get? pairs.reverse k := by
  induction pairs using List.reverseRecOn with
  | nil => rfl
  | append_singleton rest last ih =>
      obtain ⟨j, v⟩ := last
      rw [ofList_append_singleton, get?_put, ih, List.reverse_append, List.reverse_singleton,
        List.singleton_append, get?_cons]
      exact if_congr eq_comm rfl rfl

theorem ofFirst_append_singleton (rest : List (String × α)) (last : String × α) :
    ofFirst (rest ++ [last]) =
      if contains (ofFirst rest) last.1 then ofFirst rest
      else put last.1 last.2 (ofFirst rest) := by
  unfold ofFirst
  rw [List.foldl_append]
  rfl

theorem get?_ofFirst (pairs : List (String × α)) (k : String) :
    get? (ofFirst pairs) k = get? pairs k := by
  induction pairs using List.reverseRecOn with
  | nil => rfl
  | append_singleton rest last ih =>
      obtain ⟨j, v⟩ := last
      rw [ofFirst_append_singleton, get?_append, get?_cons, get?_nil]
      by_cases hjk : j = k
      · subst hjk
        unfold contains
        rw [ih, if_pos rfl]
        cases hj : get? rest j <;> simp [ih, hj]
      · rw [if_neg hjk, Option.or_none]
        split_ifs
        · exact ih
        · rw [get?_put_of_ne (Ne.symm hjk), ih]

theorem nodup_keys_put (h : (keys t).Nodup) (k : String) (v : α) : (keys (put k v t)).Nodup := by
  rw [keys_put]
  split_ifs with hk
  · exact h
  · rw [← List.concat_eq_append]
    exact List.Nodup.concat hk h

theorem nodup_keys_ofFirst (pairs : List (String × α)) : (keys (ofFirst pairs)).Nodup := by
  induction pairs using List.reverseRecOn with
  | nil => exact List.nodup_nil
  | append_singleton rest last ih =>
      rw [ofFirst_append_singleton]
      split_ifs
      · exact ih
      · exact nodup_keys_put ih last.1 last.2

end RateLimit.Table
