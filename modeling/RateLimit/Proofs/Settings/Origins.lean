import RateLimit.Http.Origin
import RateLimit.Proofs.Json.Lists
import RateLimit.Proofs.Text.Blank
import RateLimit.Settings.Origins

/-!
# Three spellings of a list of origins

Origins can be given as a list, as the text of a JSON list, or as a text in which they are
`Spread` among separators. A spread text is read origin by origin, `parts_of_spread`: blanks
at its ends are separators themselves, and it is no JSON list unless its first origin begins
like one. A star or a repetition in it makes no difference to who is let in, so all three
spellings admit the same origins. What is read in any way is left alone when it is read as a
list again, since no text in it is empty or has blanks around it.
-/

namespace RateLimit.Origins

open Text (isBlank strip trim)

variable {xs : List String} {cs : List Char} {c : Char}

/-- A text that can be one of the origins in a text. -/
structure IsOrigin (x : String) : Prop where
  ne_empty : x ≠ ""
  isPlain : ∀ c ∈ x.toList, isSeparator c = false

instance (x : String) : Decidable (IsOrigin x) :=
  have := List.decidableBAll (fun c => isSeparator c = false) x.toList
  decidable_of_iff (x ≠ "" ∧ ∀ c ∈ x.toList, isSeparator c = false)
    ⟨fun h => ⟨h.1, h.2⟩, fun h => ⟨h.1, h.2⟩⟩

/-- Origins in order, with at least one separator between each two of them, and with any
number of separators at both ends. -/
inductive Spread : List String → List Char → Prop where
  | nil : Spread [] []
  | separator {c : Char} {cs : List Char} {xs : List String} (hc : isSeparator c = true)
      (h : Spread xs cs) : Spread xs (c :: cs)
  | last (x : String) : Spread [x] x.toList
  | cons {c : Char} {cs : List Char} {xs : List String} (x : String) (hc : isSeparator c = true)
      (h : Spread xs cs) : Spread (x :: xs) (x.toList ++ c :: cs)

/-- A text that spells a list in JSON, perhaps with blanks around it. -/
def IsListText (xs : List String) (text : String) : Prop :=
  ∃ before inner after, text.toList = before ++ (inner ++ after) ∧
    (∀ c ∈ before, isBlank c = true) ∧ (∀ c ∈ after, isBlank c = true) ∧ Json.IsArrayText inner xs

theorem isListText_of_isArrayText {text : String} (h : Json.IsArrayText text.toList xs) :
    IsListText xs text :=
  ⟨[], text.toList, [], by simp, by simp, by simp, h⟩

theorem isSeparator_of_isBlank (h : isBlank c = true) : isSeparator c = true := by
  simp [isSeparator, h]

theorem IsOrigin.strip_eq {x : String} (h : IsOrigin x) : strip x = x := by
  refine Text.strip_of_forall fun c hc => ?_
  cases hblank : isBlank c with
  | false => rfl
  | true => exact (isSeparator_of_isBlank hblank).symm.trans (h.isPlain c hc)

section Parts

@[simp] theorem parts_nil : parts [] = [] := rfl

theorem parts_cons_of_separator (hc : isSeparator c = true) (cs : List Char) :
    parts (c :: cs) = parts cs := by
  unfold parts
  rw [List.splitOnP_cons_eq_if_modifyHead, if_pos hc]
  rfl

theorem parts_append_separator (hc : isSeparator c = true) (before after : List Char) :
    parts (before ++ c :: after) = parts before ++ parts after := by
  unfold parts
  rw [List.splitOnP_append_cons _ _ hc, List.filter_append, List.map_append]

theorem parts_of_isOrigin {x : String} (h : IsOrigin x) : parts x.toList = [x] := by
  have hne : x.toList ≠ [] := fun hnil => h.ne_empty (String.toList_eq_nil_iff.mp hnil)
  unfold parts
  rw [List.splitOnP_eq_singleton h.isPlain]
  simp [hne]

theorem parts_of_spread (h : Spread xs cs) (horigin : ∀ x ∈ xs, IsOrigin x) : parts cs = xs := by
  induction h with
  | nil => rfl
  | separator hc h ih => rw [parts_cons_of_separator hc, ih horigin]
  | last x => exact parts_of_isOrigin (horigin x List.mem_cons_self)
  | cons x hc h ih =>
      rw [parts_append_separator hc, parts_of_isOrigin (horigin x List.mem_cons_self),
        ih fun y hy => horigin y (List.mem_cons_of_mem x hy)]
      rfl

theorem parts_dropWhile_isBlank (cs : List Char) : parts (cs.dropWhile isBlank) = parts cs := by
  induction cs with
  | nil => rfl
  | cons c rest ih =>
      rw [List.dropWhile_cons]
      split_ifs with hblank
      · rw [ih, parts_cons_of_separator (isSeparator_of_isBlank hblank)]
      · rfl

theorem parts_rdropWhile_isBlank (cs : List Char) : parts (cs.rdropWhile isBlank) = parts cs := by
  induction cs using List.reverseRecOn with
  | nil => rfl
  | append_singleton rest c ih =>
      rw [List.rdropWhile_concat]
      split_ifs with hblank
      · rw [ih, parts_append_separator (isSeparator_of_isBlank hblank), parts_nil, List.append_nil]
      · rfl

/-- Blanks at the ends of a text are separators. -/
theorem parts_trim (cs : List Char) : parts (trim isBlank cs) = parts cs := by
  rw [Text.trim_eq_rdropWhile, parts_rdropWhile_isBlank, parts_dropWhile_isBlank]

/-- A text that does not begin with a separator begins with its first part. -/
theorem exists_parts_eq_cons (hc : isSeparator c = false) (cs : List Char) :
    ∃ x rest, parts (c :: cs) = x :: rest ∧ x.toList.head? = some c := by
  obtain ⟨first, more, hsplit⟩ := List.exists_cons_of_ne_nil (List.splitOnP_ne_nil isSeparator cs)
  refine ⟨String.ofList (c :: first), (more.filter (!·.isEmpty)).map String.ofList, ?_,
    congrArg List.head? String.toList_ofList⟩
  unfold parts
  rw [List.splitOnP_cons_eq_if_modifyHead, if_neg (by simp [hc]), hsplit]
  rfl

theorem not_isSeparator_of_mem_splitOnP {cs part : List Char} (h : part ∈ cs.splitOnP isSeparator) :
    ∀ c ∈ part, isSeparator c = false := by
  induction cs generalizing part with
  | nil =>
      obtain rfl := List.mem_singleton.mp h
      exact fun _ hc => nomatch hc
  | cons d rest ih =>
      rw [List.splitOnP_cons_eq_if_modifyHead] at h
      split_ifs at h with hd
      · rcases List.mem_cons.mp h with rfl | h
        · exact fun _ hc => nomatch hc
        · exact ih h
      · obtain ⟨first, more, hsplit⟩ :=
          List.exists_cons_of_ne_nil (List.splitOnP_ne_nil isSeparator rest)
        rw [hsplit] at h ih
        rcases List.mem_cons.mp h with rfl | h
        · exact List.forall_mem_cons.mpr ⟨Bool.eq_false_iff.mpr hd, ih List.mem_cons_self⟩
        · exact ih (List.mem_cons_of_mem first h)

/-- A part is not empty and holds no separator. -/
theorem isOrigin_of_mem_parts {x : String} (h : x ∈ parts cs) : IsOrigin x := by
  obtain ⟨part, hpart, rfl⟩ := List.mem_map.mp h
  obtain ⟨hsplit, hne⟩ := List.mem_filter.mp hpart
  refine ⟨fun hempty => ?_, ?_⟩
  · simp [String.ofList_eq_empty_iff.mp hempty] at hne
  · rw [String.toList_ofList]
    exact not_isSeparator_of_mem_splitOnP hsplit

end Parts

section Texts

/-- A text that does not begin like a list is read part by part. -/
theorem ofText_of_head_ne {raw : String} (h : (trim isBlank raw.toList).head? ≠ some '[') :
    ofText raw = .ok (ofParts (parts raw.toList)) := by
  have hparts : parts (strip raw).toList = parts raw.toList := by
    rw [Text.toList_strip, parts_trim]
  rw [← Text.toList_strip] at h
  unfold ofText
  dsimp only
  split_ifs with hempty
  · rcases hempty with hempty | hempty
    · rw [← hparts, hempty]
      rfl
    · rw [hempty] at h
      exact absurd rfl h
  · rw [hparts]

theorem ofText_of_spread {raw : String} (h : Spread xs raw.toList)
    (horigin : ∀ x ∈ xs, IsOrigin x) (hfirst : ∀ x ∈ xs.head?, x.toList.head? ≠ some '[') :
    ofText raw = .ok (ofParts xs) := by
  have hparts := parts_of_spread h horigin
  rw [ofText_of_head_ne, hparts]
  intro hhead
  obtain ⟨rest, hrest⟩ := List.head?_eq_some_iff.mp hhead
  obtain ⟨x, more, hx, hbegin⟩ := exists_parts_eq_cons (by decide : isSeparator '[' = false) rest
  rw [← hrest, parts_trim, hparts] at hx
  exact hfirst x (by rw [hx]; rfl) hbegin

/-- A text that has no blanks at its ends, and is not empty. -/
def IsTrimmed (x : String) : Prop := x ≠ "" ∧ strip x = x

theorem IsOrigin.isTrimmed {x : String} (h : IsOrigin x) : IsTrimmed x := ⟨h.ne_empty, h.strip_eq⟩

theorem ofItems_strings (h : ∀ x ∈ xs, IsTrimmed x) : ofItems (xs.map .string) = xs := by
  have hstrip : xs.map (fun x => strip x) = xs := by
    conv_rhs => rw [← List.map_id xs]
    exact List.map_congr_left fun x hx => (h x hx).2
  unfold ofItems
  rw [List.map_map]
  exact (congrArg _ hstrip).trans (List.filter_eq_self.mpr fun x hx => by simp [(h x hx).1])

/-- What is read of the items of a list is trimmed. -/
theorem isTrimmed_of_mem_ofItems {items : List Json} {x : String} (h : x ∈ ofItems items) :
    IsTrimmed x := by
  obtain ⟨hmem, hne⟩ := List.mem_filter.mp h
  obtain ⟨v, -, rfl⟩ := List.mem_map.mp hmem
  exact ⟨of_decide_eq_true hne, Text.strip_strip _⟩

theorem ofText_of_isListText {raw : String} (h : IsListText xs raw)
    (htrimmed : ∀ x ∈ xs, IsTrimmed x) : ofText raw = .ok xs := by
  obtain ⟨before, inner, after, hraw, hbefore, hafter, hinner⟩ := h
  have hread := Json.read?_of_isArrayText hinner
  obtain ⟨more, hmore⟩ := hinner.eq_cons
  obtain ⟨front, hfront⟩ := hinner.eq_concat
  have hstrip : strip raw = String.ofList inner := by
    have hfirst : ∀ c ∈ inner.head?, isBlank c = false := by
      rw [hmore, List.head?_cons]
      rintro c ⟨⟩
      decide
    have hlast : ∀ c ∈ inner.getLast?, isBlank c = false := by
      rw [hfront, List.getLast?_concat]
      rintro c ⟨⟩
      decide
    unfold strip
    rw [hraw, Text.trim_append hbefore hafter, Text.trim_of_ends hfirst hlast]
  have hhead : (strip raw).toList.head? = some '[' := by
    rw [hstrip, String.toList_ofList, hmore]
    rfl
  rw [← hstrip] at hread
  unfold ofText
  dsimp only
  split_ifs with hempty
  · rcases hempty with hempty | hempty
    · rw [hempty] at hhead
      cases hhead
    · rw [hempty] at hread
      cases xs with
      | nil => rfl
      | cons x rest => cases hread
  · rw [hread]
    exact congrArg _ (ofItems_strings htrimmed)

theorem isTrimmed_of_mem_ofParts {x : String} (h : x ∈ ofParts (parts cs)) : IsTrimmed x := by
  unfold ofParts at h
  split_ifs at h
  · obtain rfl := List.mem_singleton.mp h
    exact ⟨by decide, by decide⟩
  · exact (isOrigin_of_mem_parts (List.mem_eraseDups.mp h)).isTrimmed

/-- A text is read as nothing, as a list, or part by part. -/
theorem ofText_cases {raw : String} (h : ofText raw = .ok xs) :
    xs = [] ∨ (∃ items, xs = ofItems items) ∨ xs = ofParts (parts (strip raw).toList) := by
  unfold ofText at h
  dsimp only at h
  generalize Json.read? (strip raw) = result at h
  split_ifs at h
  · exact Or.inl (Except.ok.inj h).symm
  · cases result with
    | error e =>
        cases e with
        | malformed => exact Or.inr (Or.inr (Except.ok.inj h).symm)
        | _ => cases h
    | ok v =>
        cases v with
        | array items => exact Or.inr (Or.inl ⟨items, (Except.ok.inj h).symm⟩)
        | _ => exact Or.inr (Or.inr (Except.ok.inj h).symm)
  · exact Or.inr (Or.inr (Except.ok.inj h).symm)

theorem isTrimmed_of_ofText {raw : String} (h : ofText raw = .ok xs) :
    ∀ x ∈ xs, IsTrimmed x := by
  intro x hx
  rcases ofText_cases h with hnil | ⟨items, hitems⟩ | hparts
  · rw [hnil] at hx
    cases hx
  · rw [hitems] at hx
    exact isTrimmed_of_mem_ofItems hx
  · rw [hparts] at hx
    exact isTrimmed_of_mem_ofParts hx

theorem isTrimmed_of_ofValue {v : Json} (h : ofValue v = .ok xs) : ∀ x ∈ xs, IsTrimmed x := by
  unfold ofValue at h
  split at h
  · cases h
    exact fun _ hx => nomatch hx
  · cases h
    exact fun _ => isTrimmed_of_mem_ofItems
  · exact isTrimmed_of_ofText h

end Texts

/-- A star and repetitions make no difference to who is let in. -/
theorem isAllowedOrigin_ofParts (xs : List String) (origin : String) :
    Http.isAllowedOrigin (ofParts xs) origin = Http.isAllowedOrigin xs origin := by
  have hcontains : ∀ x, xs.eraseDups.contains x = xs.contains x := by
    intro x
    rw [Bool.eq_iff_iff, List.contains_iff_mem, List.contains_iff_mem, List.mem_eraseDups]
  unfold ofParts Http.isAllowedOrigin
  split_ifs with hstar
  · rw [hstar]
    rfl
  · rw [hcontains, hcontains]

/-- The three spellings of origins are read as these origins, but for a star and for
repetitions in a text, and admit the same ones. What is read is left alone from then on. -/
theorem spellings_agree :
    (∀ xs : List String, (∀ x ∈ xs, IsOrigin x) → (∀ x ∈ xs.head?, x.toList.head? ≠ some '[') →
      ∀ text listText : String, Spread xs text.toList → IsListText xs listText →
        ofValue (.string text) = .ok (if "*" ∈ xs then ["*"] else xs.eraseDups) ∧
          ofValue (.array (xs.map .string)) = .ok xs ∧ ofValue (.string listText) = .ok xs ∧
          ∀ origin, Http.isAllowedOrigin (if "*" ∈ xs then ["*"] else xs.eraseDups) origin =
            Http.isAllowedOrigin xs origin) ∧
      ∀ (v : Json) (ys : List String), ofValue v = .ok ys →
        ofValue (.array (ys.map .string)) = .ok ys ∧ ∀ y ∈ ys, y ≠ "" ∧ strip y = y := by
  have hparts : ∀ xs : List String,
      (if "*" ∈ xs then ["*"] else xs.eraseDups) = ofParts xs := by
    intro xs
    unfold ofParts
    simp only [List.contains_iff_mem]
  constructor
  · intro xs horigin hfirst text listText hspread hlist
    have htrimmed : ∀ x ∈ xs, IsTrimmed x := fun x hx => (horigin x hx).isTrimmed
    rw [hparts]
    exact ⟨ofText_of_spread hspread horigin hfirst, congrArg _ (ofItems_strings htrimmed),
      ofText_of_isListText hlist htrimmed, isAllowedOrigin_ofParts xs⟩
  · intro v ys h
    have htrimmed := isTrimmed_of_ofValue h
    exact ⟨congrArg _ (ofItems_strings htrimmed), htrimmed⟩

/-- Two origins, the first of them twice. -/
def repeatedOrigins : List String := ["http://b.example", "http://a.example", "http://b.example"]

theorem spread_repeatedOrigins : Spread repeatedOrigins
    ",http://b.example,\u3000http://a.example http://b.example\n".toList := by
  have hparts : ",http://b.example,\u3000http://a.example http://b.example\n".toList =
      ',' :: ("http://b.example".toList ++ ',' :: '\u3000' ::
        ("http://a.example".toList ++ ' ' :: ("http://b.example".toList ++ '\n' :: []))) := by
    decide +kernel
  rw [hparts]
  exact .separator (by decide) <| .cons _ (by decide) <| .separator (by decide) <|
    .cons _ (by decide) <| .cons _ (by decide) .nil

/-- In a text they stand for two origins, in a list and in its JSON text for themselves. -/
theorem repeatedOrigins_spellings_agree :
    ofValue (.string ",http://b.example,\u3000http://a.example http://b.example\n") =
        .ok ["http://b.example", "http://a.example"] ∧
      ofValue (.array (repeatedOrigins.map .string)) = .ok repeatedOrigins ∧
        ofValue (.string (Json.body (.array (repeatedOrigins.map .string)))) =
          .ok repeatedOrigins := by
  have hlist := isListText_of_isArrayText
    (Json.isArrayText_write Json.isReadable_compact repeatedOrigins)
  obtain ⟨htext, hitems, hspelled, -⟩ := spellings_agree.1 repeatedOrigins (by decide)
    (by decide) _ _ spread_repeatedOrigins hlist
  exact ⟨htext.trans (by decide), hitems, hspelled⟩

end RateLimit.Origins
