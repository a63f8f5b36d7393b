import Rubric.Css.Content

/-!
# The text of content values

* `quote_injective` : a text is told by its string;
* `Content.spaced` : parts with a blank behind each, which is how they stand in front of others;
* `Content.lead` : a label that goes in front as text, with its separator; `lead_injective` : it is told
  by the text of the whole value.
-/

namespace Rubric

namespace Css

theorem escapeChar_cases (c : Char) :
    (c = '\x5c' ∨ c = '\x22') ∧ escapeChar c = ['\x5c', c] ∨
      (c ≠ '\x5c' ∧ c ≠ '\x22') ∧ escapeChar c = [c] := by
  unfold escapeChar
  by_cases h : c = '\x5c' ∨ c = '\x22'
  · exact Or.inl ⟨h, if_pos (by simpa using h)⟩
  · obtain ⟨h1, h2⟩ := not_or.1 h
    exact Or.inr ⟨⟨h1, h2⟩, if_neg (by simpa using ⟨h1, h2⟩)⟩

theorem escape_injective {xs ys : List Char}
    (h : xs.flatMap escapeChar = ys.flatMap escapeChar) : xs = ys := by
  induction xs generalizing ys with
  | nil =>
    cases ys with
    | nil => rfl
    | cons y ys =>
      rw [List.flatMap_cons, List.flatMap_nil] at h
      rcases escapeChar_cases y with ⟨-, hy⟩ | ⟨-, hy⟩ <;> rw [hy] at h <;> cases h
  | cons x xs ih =>
    cases ys with
    | nil =>
      rw [List.flatMap_cons, List.flatMap_nil] at h
      rcases escapeChar_cases x with ⟨-, hx⟩ | ⟨-, hx⟩ <;> rw [hx] at h <;> cases h
    | cons y ys =>
      rw [List.flatMap_cons, List.flatMap_cons] at h
      rcases escapeChar_cases x with ⟨-, hx⟩ | ⟨⟨hx1, -⟩, hx⟩ <;>
        rcases escapeChar_cases y with ⟨-, hy⟩ | ⟨⟨hy1, -⟩, hy⟩ <;> rw [hx, hy] at h
      · simp only [List.cons_append, List.nil_append, List.cons.injEq, true_and] at h
        rw [h.1, ih h.2]
      · exact absurd (List.cons.inj h).1.symm hy1
      · exact absurd (List.cons.inj h).1 hx1
      · simp only [List.cons_append, List.nil_append, List.cons.injEq] at h
        rw [h.1, ih h.2]

theorem toList_quote {s : String} (h : s.isEmpty = false) :
    (quote s).toList = '\x22' :: (s.toList.flatMap escapeChar ++ ['\x22']) := by
  rw [quote, h]
  simp

theorem quote_injective {s t : String} (h : quote s = quote t) : s = t := by
  have hlist := congrArg String.toList h
  cases hs : s.isEmpty with
  | true =>
    cases ht : t.isEmpty with
    | true =>
      rw [String.isEmpty_iff] at hs ht
      rw [hs, ht]
    | false =>
      rw [toList_quote ht, quote, hs] at hlist
      simp at hlist
  | false =>
    cases ht : t.isEmpty with
    | true =>
      rw [toList_quote hs, quote, ht] at hlist
      simp at hlist
    | false =>
      rw [toList_quote hs, toList_quote ht] at hlist
      have := List.append_cancel_right (List.cons.inj hlist).2
      exact String.toList_inj.1 (escape_injective this)

end Css

namespace Content

def spaced (x : Content) : List Char := x.flatMap fun p => p.toText.toList ++ [' ']

theorem toList_toText_append (x : Content) {y : Content} (hy : y ≠ []) :
    (toText (x ++ y)).toList = spaced x ++ (toText y).toList := by
  induction x with
  | nil => rfl
  | cons p rest ih =>
    have hne : (rest ++ y).map ContentPart.toText ≠ [] := by simp [hy]
    rw [List.cons_append, toText, List.map_cons, String.intercalate_cons_of_ne_nil hne,
      String.toList_append, String.toList_append, ← toText, ih]
    simp [spaced]

theorem spaced_append (x y : Content) : spaced (x ++ y) = spaced x ++ spaced y := by
  simp [spaced]

/-- A label that goes in front as text, with the separator behind it. -/
def lead (label separator : String) : Content :=
  if label.isEmpty then [] else .text label :: ofText separator

theorem spaced_lead_injective {label label' separator : String}
    (h : spaced (lead label separator) = spaced (lead label' separator)) : label = label' := by
  unfold lead at h
  cases hl : label.isEmpty <;> cases hl' : label'.isEmpty <;>
    simp only [hl, hl', if_true, if_false, Bool.false_eq_true] at h
  · simp only [spaced, List.flatMap_cons, List.append_assoc] at h
    have hlength := congrArg List.length h
    have := List.append_inj_left h (by simpa using hlength)
    exact Css.quote_injective (String.toList_inj.1 this)
  · simp [spaced] at h
  · simp [spaced] at h
  · rw [String.isEmpty_iff] at hl hl'
    rw [hl, hl']

/-- A label in front is told by the text of the whole value. -/
theorem lead_injective {label label' separator : String} {x y : Content} (hy : y ≠ [])
    (h : toText (x ++ (lead label separator ++ y)) = toText (x ++ (lead label' separator ++ y))) :
    label = label' := by
  have hlist := congrArg String.toList h
  rw [← List.append_assoc, ← List.append_assoc, toList_toText_append _ hy,
    toList_toText_append _ hy, spaced_append, spaced_append] at hlist
  exact spaced_lead_injective (List.append_cancel_left (List.append_cancel_right hlist))

end Content
end Rubric
