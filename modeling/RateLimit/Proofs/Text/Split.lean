import Mathlib.Data.List.TakeWhile
import Mathlib.Tactic
import RateLimit.Text.Split

/-!
# Where a text is split

A text is split at the first character of a class if none stands before it,
`splitFirst_append_cons`, and at the last one if none stands behind it,
`splitLast_append_cons`. What stands in front of a mark is split off if the mark can begin
neither within it nor at its end, `splitMark_append`.
-/

namespace RateLimit.Text

variable {p : Char → Bool} {c : Char} {cs before after : List Char}

theorem splitFirst_append_cons (hbefore : ∀ x ∈ before, p x = false) (hc : p c = true)
    (after : List Char) : splitFirst p (before ++ c :: after) = (before, some after) := by
  have hall : ∀ x ∈ before, (!p x) = true := fun x hx => by rw [hbefore x hx]; rfl
  unfold splitFirst
  rw [List.dropWhile_append_of_pos hall, List.dropWhile_cons_of_neg (by simp [hc]),
    List.takeWhile_append_of_pos hall, List.takeWhile_cons_of_neg (by simp [hc])]
  dsimp only
  rw [List.append_nil]

theorem splitFirst_of_forall (h : ∀ x ∈ cs, p x = false) : splitFirst p cs = (cs, none) := by
  have hall : ∀ x ∈ cs, (!p x) = true := fun x hx => by rw [h x hx]; rfl
  unfold splitFirst
  rw [List.dropWhile_eq_nil_iff.mpr hall]

theorem decide_eq_false_of_notMem (h : c ∉ cs) : ∀ x ∈ cs, decide (x = c) = false :=
  fun _ hx => decide_eq_false fun heq => h (heq ▸ hx)

/-- A text is split at the first place of a character, if it has one. -/
theorem splitFirst_cases (c : Char) (cs : List Char) :
    (c ∉ cs ∧ splitFirst (· = c) cs = (cs, none)) ∨
      ∃ before after, c ∉ before ∧ cs = before ++ c :: after ∧
        splitFirst (· = c) cs = (before, some after) := by
  by_cases h : c ∈ cs
  · obtain ⟨before, after, rfl, hbefore⟩ := List.eq_append_cons_of_mem h
    exact Or.inr ⟨before, after, hbefore, rfl, splitFirst_append_cons
      (decide_eq_false_of_notMem hbefore) (decide_eq_true rfl) after⟩
  · exact Or.inl ⟨h, splitFirst_of_forall (decide_eq_false_of_notMem h)⟩

theorem splitLast_append_cons (hafter : ∀ x ∈ after, p x = false) (hc : p c = true)
    (before : List Char) : splitLast p (before ++ c :: after) = (some before, after) := by
  have hreverse : (before ++ c :: after).reverse = after.reverse ++ c :: before.reverse := by simp
  have hsplit := splitFirst_append_cons
    (fun x hx => hafter x (List.mem_reverse.mp hx)) hc before.reverse
  unfold splitLast
  rw [hreverse, hsplit]
  dsimp only
  rw [List.reverse_reverse, List.reverse_reverse]

/-- The mark between the scheme of a URL and what follows cannot begin at the end of another
one, so it is found behind a text without it. -/
theorem splitMark_append (h : ¬[':', '/', '/'] <:+: before) (after : List Char) :
    splitMark [':', '/', '/'] (before ++ [':', '/', '/'] ++ after) = (before, after) := by
  induction before with
  | nil => rfl
  | cons c rest ih =>
      obtain ⟨hfirst, hrest⟩ := not_or.mp (mt List.infix_cons_iff.mpr h)
      have hprefix : ¬[':', '/', '/'] <+: c :: rest ++ [':', '/', '/'] ++ after := by
        match rest with
        | [] => simp
        | [d] => simp
        | d :: e :: rest => simpa using hfirst
      rw [List.cons_append, List.cons_append, splitMark, ih hrest]
      rw [if_neg]
      simpa using hprefix

end RateLimit.Text
