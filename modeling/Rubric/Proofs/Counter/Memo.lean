import Rubric.Counter.Style

/-!
# Remembered numerals

Styles remember the texts of the counts that they were asked for.

* `Memo` : the texts that are remembered, the latest first;
* `CounterStyle.recalled` : the text of a count, from memory or else worked out and remembered. A style that
  leaves a count to the one it falls back to asks it in the same way;
* `recalled_remembered` : whatever was asked for before, what is recalled is the text of the count.
-/

namespace Rubric

/-- The texts of counts that are remembered for styles. -/
abbrev Memo := List ((CounterStyle × Int) × String)

/-- All that is remembered are the texts of the counts. -/
def Memo.Sound (m : Memo) : Prop :=
  ∀ (s : CounterStyle) (n : Int) (text : String), m.lookup (s, n) = some text → text = s.format n

namespace CounterStyle

/-- The text of a count by rules that are asked in order, and what is remembered from then on. -/
def recalledBy (n : Int) : List CounterRule → Memo → String × Memo
  | [], m => (toString n, m)
  | r :: rs, m =>
    match m.lookup (⟨r, rs⟩, n) with
    | some text => (text, m)
    | none =>
      let (text, m) :=
        match r.represent? n with
        | some text => (text, m)
        | none => recalledBy n rs m
      (text, ((⟨r, rs⟩, n), text) :: m)

def recalled (s : CounterStyle) (n : Int) (m : Memo) : String × Memo := recalledBy n s.rules m

def remembered (asked : List (CounterStyle × Int)) : Memo :=
  asked.foldl (fun m a => (a.1.recalled a.2 m).2) []

theorem sound_cons {m : Memo} (h : m.Sound) (s : CounterStyle) (n : Int) :
    Memo.Sound (((s, n), s.format n) :: m) := by
  intro s' n' text hlookup
  rw [List.lookup_cons] at hlookup
  split at hlookup
  · rename_i heq
    cases hlookup
    cases beq_iff_eq.1 heq
    rfl
  · exact h s' n' text hlookup

/-- What is recalled from a sound memo is the text of the count, and the memo stays sound. -/
theorem recalledBy_spec (n : Int) (rules : List CounterRule) {m : Memo} (h : m.Sound) :
    (recalledBy n rules m).1 = (rules.findSome? (·.represent? n)).getD (toString n) ∧
      (recalledBy n rules m).2.Sound := by
  induction rules generalizing m with
  | nil => exact ⟨rfl, h⟩
  | cons r rs ih =>
    have hformat : CounterStyle.format ⟨r, rs⟩ n =
      ((r :: rs).findSome? (·.represent? n)).getD (toString n) := rfl
    rw [recalledBy, ← hformat]
    cases hlookup : m.lookup (⟨r, rs⟩, n) with
    | some text => exact ⟨h _ _ _ hlookup, h⟩
    | none =>
      cases hown : r.represent? n with
      | some text =>
        have htext : text = CounterStyle.format ⟨r, rs⟩ n := (format_of_represent (s := ⟨r, rs⟩) hown).symm
        dsimp only
        rw [htext]
        exact ⟨rfl, sound_cons h _ n⟩
      | none =>
        obtain ⟨hrest, hsound⟩ := ih h
        have htext : (recalledBy n rs m).1 = CounterStyle.format ⟨r, rs⟩ n := by
          rw [hrest, hformat, List.findSome?_cons, hown]
        dsimp only
        rw [htext]
        exact ⟨rfl, sound_cons hsound _ n⟩

theorem sound_remembered (asked : List (CounterStyle × Int)) : (remembered asked).Sound := by
  have hfold : ∀ (asked : List (CounterStyle × Int)) (m : Memo), m.Sound →
      Memo.Sound (asked.foldl (fun m a => (a.1.recalled a.2 m).2) m) := by
    intro asked
    induction asked with
    | nil => exact fun m h => h
    | cons a rest ih => exact fun m h => ih _ (recalledBy_spec a.2 a.1.rules h).2
  exact hfold asked [] fun s n text h => by cases h

/-- Whatever styles were asked for before, what is recalled is the text of the count. -/
theorem recalled_remembered (s : CounterStyle) (n : Int) (asked : List (CounterStyle × Int)) :
    (s.recalled n (remembered asked)).1 = s.format n :=
  (recalledBy_spec n s.rules (sound_remembered asked)).1

end CounterStyle
end Rubric
