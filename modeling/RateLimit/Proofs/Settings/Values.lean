import RateLimit.Proofs.Table
import RateLimit.Settings.Basic

/-!
# Which value of a setting counts

The environment and the arguments may name a setting many times, since the case of a name
does not matter. What counts is the first argument of a name, or else its last variable,
`Settings.value?`. Settings that are loaded are read from just these values,
`exists_check_of_load`; only the overrides, which are objects, are joined from both sides.
-/

namespace RateLimit

theorem bind_eq_ok_iff {ε α β : Type} {x : Except ε α} {f : α → Except ε β} {b : β} :
    x >>= f = .ok b ↔ ∃ a, x = .ok a ∧ f a = .ok b := by
  cases x <;> simp [bind, Except.bind]

theorem toOption_map_eq_some_iff {ε α β : Type} {x : Except ε α} {f : α → β} {b : β} :
    x.toOption.map f = some b ↔ ∃ a, x = .ok a ∧ f a = b := by
  cases x <;> simp [Except.toOption]

namespace Settings

variable {environment : List (String × String)} {arguments : List (String × Json)}
  {given base top : Table Json} {s : Settings} {name : String}

/-- The value that counts for a setting other than the overrides: the first argument of this
name, or else the text of the last variable. -/
def value? (environment : List (String × String)) (arguments : List (String × Json))
    (name : String) : Option Json :=
  (Table.get? (lowerNames arguments) name).or
    ((Table.get? (lowerNames environment).reverse name).map .string)

theorem field_eq_valid_iff {α : Type} {default a : α} {read : Json → Except IssueKind α} :
    field given name default read = .valid a ↔
      (Table.get? given name = none ∧ default = a) ∨
        ∃ v, Table.get? given name = some v ∧ read v = .ok a := by
  unfold field
  cases Table.get? given name with
  | none => simp
  | some v =>
      dsimp only
      cases hread : read v <;> simp [Checked.ofExcept, hread]

theorem check_of_ofValues (h : ofValues given = .ok s) : check given = .valid s := by
  unfold ofValues at h
  split at h
  · cases h
  · cases h
  · cases hcheck : check given with
    | valid s' =>
        rw [hcheck] at h
        cases h
        rfl
    | invalid issues =>
        rw [hcheck] at h
        cases h

/-- The values of the environment are the texts of its variables, but for the overrides. -/
theorem get?_of_ofEnvironment (h : ofEnvironment environment = .ok base)
    (hname : name ≠ overridesName) :
    Table.get? base name = (Table.get? (lowerNames environment).reverse name).map .string := by
  let written := Table.ofList (lowerNames environment)
  let texts := (written.filter (·.1 ≠ overridesName)).map fun p => (p.1, Json.string p.2)
  have htexts : Table.get? texts name =
      (Table.get? (lowerNames environment).reverse name).map .string := by
    rw [Table.get?_map, Table.get?_filter_ne hname, Table.get?_ofList]
  unfold ofEnvironment at h
  obtain ⟨-, -, h⟩ := bind_eq_ok_iff.mp h
  dsimp only at h
  split at h
  · cases h
    exact htexts
  · obtain ⟨v, -, h⟩ := bind_eq_ok_iff.mp h
    split at h
    · cases h
      exact htexts
    · cases h
      rw [Table.get?_put_of_ne hname]
      exact htexts

/-- Members laid over others hide them, unless there are objects to be joined. -/
theorem get?_overlayMembers (htop : (Table.keys top).Nodup)
    (hplain : ∀ old v, Table.get? base name = some old → Table.get? top name = some v →
      overlay old v = v) :
    Table.get? (overlayMembers base top) name =
      (Table.get? top name).or (Table.get? base name) := by
  induction top generalizing base with
  | nil => rw [overlayMembers, Table.get?_nil, Option.none_or]
  | cons first rest ih =>
      obtain ⟨j, v⟩ := first
      obtain ⟨hfirst, hrest⟩ := List.nodup_cons.mp htop
      -- What `j` is written with matters only if `j` is the name that is looked up.
      have hwritten : ∃ w, overlayMembers base ((j, v) :: rest) =
          overlayMembers (Table.put j w base) rest ∧ (j = name → w = v) := by
        rw [overlayMembers]
        cases hold : Table.get? base j with
        | none => exact ⟨v, rfl, fun _ => rfl⟩
        | some old =>
            refine ⟨overlay old v, rfl, ?_⟩
            rintro rfl
            exact hplain old v hold (if_pos rfl)
      obtain ⟨w, hw, hsame⟩ := hwritten
      rw [hw, Table.get?_cons]
      by_cases hj : j = name
      · obtain rfl := hsame hj
        subst hj
        have hlast : Table.get? rest j = none := Table.get?_eq_none_iff.mpr hfirst
        rw [ih hrest, hlast, if_pos rfl, Table.get?_put_self, Option.none_or, Option.some_or]
        intro old v _ hv
        cases hlast.symm.trans hv
      · have hkept := Table.get?_put_of_ne (Ne.symm hj) w base
        rw [if_neg hj, ih hrest, hkept]
        intro old u hold hu
        rw [hkept] at hold
        exact hplain old u hold (by rwa [Table.get?_cons, if_neg hj])

theorem exists_check_of_load (h : load environment arguments = .ok s) :
    ∃ given, check given = .valid s ∧
      ∀ name, name ≠ overridesName →
        Table.get? given name = value? environment arguments name := by
  unfold load at h
  obtain ⟨base, hbase, h⟩ := bind_eq_ok_iff.mp h
  refine ⟨_, check_of_ofValues h, fun name hname => ?_⟩
  have htexts := get?_of_ofEnvironment hbase hname
  unfold value? ofArguments
  rw [get?_overlayMembers (Table.nodup_keys_ofFirst _), htexts, Table.get?_ofFirst]
  intro old v hold _
  rw [htexts] at hold
  obtain ⟨text, -, rfl⟩ := Option.map_eq_some_iff.mp hold
  rw [overlay]
  · nofun
  · nofun

end Settings

end RateLimit
