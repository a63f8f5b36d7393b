import Rubric.Css.Content
import Rubric.Proofs.Counter.Numerals

/-!
# What `content` values show

* `Content.shown?` : the text of a `content` value, for given values of the counters. The counter styles
  are those of the registry;
* `shown?_append`, `shown?_ofText`, `shown?_counter` : its parts.
-/

namespace Rubric

/-- What a part of a `content` value shows. -/
def ContentPart.shown? (value? : Nat → Option Nat) : ContentPart → Option String
  | text s => some s
  | counter key style => do
    let n ← value? key
    let style ← Registry.find? style
    return style.format n

def Content.shown? (value? : Nat → Option Nat) (x : Content) : Option String :=
  (x.mapM (ContentPart.shown? value?)).map String.join

namespace Content
variable {value? : Nat → Option Nat}

theorem shown?_append {x y : Content} {a b : String} (hx : x.shown? value? = some a)
    (hy : y.shown? value? = some b) : (x ++ y).shown? value? = some (a ++ b) := by
  obtain ⟨as, has, rfl⟩ := Option.map_eq_some_iff.1 hx
  obtain ⟨bs, hbs, rfl⟩ := Option.map_eq_some_iff.1 hy
  rw [shown?, List.mapM_append, has, hbs, ← String.join_append]
  rfl

theorem shown?_ofText (value? : Nat → Option Nat) (s : String) : (ofText s).shown? value? = some s := by
  rw [ofText]
  cases h : s.isEmpty with
  | true =>
    rw [String.isEmpty_iff] at h
    rw [h]
    rfl
  | false =>
    exact congrArg some (by simp)

theorem shown?_counter {key n : Nat} {style : CounterStyle}
    (hvalue : value? key = some n) (hstyle : style ∈ Registry.styles) :
    shown? value? [.counter key style.name] = some (style.format n) := by
  have hpart : ContentPart.shown? value? (.counter key style.name) = some (style.format n) := by
    rw [ContentPart.shown?, hvalue, Registry.find?_name hstyle]
    rfl
  rw [shown?, List.mapM_cons, hpart]
  exact congrArg some (by simp)

theorem ofText_isEmpty (s : String) : (ofText s).isEmpty = s.isEmpty := by
  rw [ofText]
  cases s.isEmpty <;> rfl

end Content
end Rubric
