import Mathlib.Logic.Function.Basic
import Rubric.Proofs.Stylesheet.Items

/-!
# Counting items by a stylesheet

What the rules of a stylesheet draw before the items of one list, when the items are counted one after
the other.

* `Rule.Covers` : the items that a rule is for;
* `outranking` : rules for a class outrank those for all items, and later rules earlier ones;
* `Stylesheet.count` : an item starts counters over and counts in one of them;
* `Stylesheet.counted` : what is drawn before items in a row.
-/

namespace Rubric

/-! ## Inline styles -/

namespace Attrs

/-- The inline style starts no counter of a label over. -/
def Unreset (attrs : Attrs) : Prop :=
  ∀ word ∈ attrs.declarations, "counter-reset:la-".toList.isPrefixOf word = false

instance (attrs : Attrs) : Decidable attrs.Unreset := inferInstanceAs (Decidable (∀ _ ∈ _, _))

end Attrs

/-! ## Rules for items -/

/-- The items of a list that a rule is for: those that have a label and the class of the rule, if it is
for one. -/
def Rule.covers (list item : Attrs) (container : Nat) (name : Option Nat) : Bool :=
  list.hasClass (Css.styleName container) && !item.hasClass Css.noLabelClass &&
    name.all fun key => item.hasClass (Css.styleName key)

/-- The counter in which a rule counts an item. -/
def Rule.increment? (list item : Attrs) : Rule → Option (Option Nat × Nat)
  | increment container name =>
    if covers list item container name then some (name, name.getD container) else none
  | _ => none

def Rule.content? (list item : Attrs) : Rule → Option (Option Nat × Content)
  | content container name value => if covers list item container name then some (name, value) else none
  | _ => none

/-- The rule that wins: those for a class outrank those for all items, and later rules earlier ones. -/
def outranking {α : Type} (rules : List (Option Nat × α)) : Option α :=
  ((rules.filter (·.1.isSome)).getLast?.or rules.getLast?).map Prod.snd

theorem outranking_eq_some {α : Type} {rules : List (Option Nat × α)} {name : Option Nat} {a : α}
    (hmem : (name, a) ∈ rules) (hnames : ∀ r ∈ rules, r.1 = none ∨ r.1 = name)
    (hsame : ∀ r ∈ rules, r.1 = name → r.2 = a) : outranking rules = some a := by
  rw [outranking]
  cases hlast : (rules.filter (·.1.isSome)).getLast? with
  | some r =>
    obtain ⟨hr, hsome⟩ := List.mem_filter.1 (List.mem_of_getLast? hlast)
    have hname : r.1 = name := (hnames r hr).resolve_left fun hnone => by simp [hnone] at hsome
    exact congrArg some (hsame r hr hname)
  | none =>
    have hempty := List.filter_eq_nil_iff.1 (List.getLast?_eq_none_iff.1 hlast)
    have hnone : name = none := by simpa using hempty _ hmem
    cases hlast' : rules.getLast? with
    | none =>
      rw [List.getLast?_eq_none_iff] at hlast'
      rw [hlast'] at hmem
      cases hmem
    | some r =>
      have hr := List.mem_of_getLast? hlast'
      refine congrArg some (hsame r hr ?_)
      rcases hnames r hr with hr' | hr'
      · rw [hr', hnone]
      · exact hr'

/-! ## Counting -/

abbrev Counters := Nat → Nat

namespace Stylesheet

/-- An element starts a counter over: a rule for its class says so, or its inline style. -/
def startsOver (sheet : Stylesheet) (item : Attrs) (key : Nat) : Bool :=
  sheet.rules.contains (.reset key) && item.hasClass (Css.styleName key) ||
    item.declarations.contains (Css.counterReset key).toList

/-- The counters at an item, with those started over that it starts over, and the item counted. -/
def count (sheet : Stylesheet) (list item : Attrs) (x : Counters) : Counters :=
  let x : Counters := fun key => if sheet.startsOver item key then 0 else x key
  match outranking (sheet.rules.filterMap (Rule.increment? list item)) with
  | none => x
  | some key => Function.update x key (x key + 1)

def shownAt (sheet : Stylesheet) (list item : Attrs) (x : Counters) : Option String :=
  (outranking (sheet.rules.filterMap (Rule.content? list item))).bind (·.shown? fun key => some (x key))

/-- What is drawn before the items of a list, one after the other. -/
def counted (sheet : Stylesheet) (x : Counters) : List ListItem → List (Option String)
  | [] => []
  | i :: rest =>
    if i.attrs.hasClass Css.noLabelClass then none :: counted sheet x rest
    else
      let list := i.lists.head?.elim [] Prod.fst
      let x := sheet.count list i.attrs x
      sheet.shownAt list i.attrs x :: counted sheet x rest

theorem counted_empty (x : Counters) (items : List ListItem) :
    counted {} x items = items.map fun _ => none := by
  induction items generalizing x with
  | nil => rfl
  | cons i rest ih =>
    rw [counted, List.map_cons]
    split
    · rw [ih]
    · exact congrArg (none :: ·) (ih _)

end Stylesheet
end Rubric
