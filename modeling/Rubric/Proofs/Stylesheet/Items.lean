import Rubric.Proofs.Css.Values
import Rubric.Proofs.Stylesheet.Inside
import Rubric.Proofs.Tree.Attrs

/-!
# What the items of a document show

* `ListItem`, `Node.items` : the items of all lists of a document, in document order, each with the lists
  around it and its positions in them;
* `ListItem.text?` : the label that stands in front of the content of an item;
* `Attrs.styleClasses` : the classes of a list that name a style;
* `ListPlace.position?` : the position that an item has in the innermost list of a style;
* `Stylesheet.drawn?` : what a stylesheet draws before an item, by the one rule for the one style of its
  list, each counter at that position.
-/

namespace Rubric

namespace Css

/-- A class that names a style: the common beginning and a number. -/
def isStyleName (word : List Char) : Bool :=
  "la-label".toList.isPrefixOf word && !(word.drop 8).isEmpty && (word.drop 8).all Char.isDigit

theorem isStyleName_styleName (key : Nat) : isStyleName (styleName key).toList = true := by
  have hdrop : (styleName key).toList.drop 8 = Nat.toDigits 10 key := by
    rw [toList_styleName]
    exact List.drop_left' (by decide)
  have hne : (Nat.toDigits 10 key).isEmpty = false :=
    List.isEmpty_eq_false_iff.2 Nat.toDigits_ne_nil
  have hall : (Nat.toDigits 10 key).all Char.isDigit = true :=
    List.all_eq_true.2 fun c hc => Nat.isDigit_of_mem_toDigits (by decide) (by decide) hc
  rw [isStyleName, hdrop, hne, hall, toList_styleName]
  simp

end Css

def Attrs.styleClasses (attrs : Attrs) : List (List Char) := attrs.classes.filter Css.isStyleName

/-- None of the classes is one that labels bring. -/
def Attrs.Unclassed (attrs : Attrs) : Prop :=
  ∀ word ∈ attrs.classes, "la-".toList.isPrefixOf word = false

instance (attrs : Attrs) : Decidable attrs.Unclassed := inferInstanceAs (Decidable (∀ _ ∈ _, _))

/-- A list around an item: its attributes, and the number of the item in it which is this one or contains
it. Items without a label do not count. -/
abbrev ListPlace := Attrs × Nat

/-- An item of a list. -/
structure ListItem where
  /-- The lists around it, innermost first. -/
  lists : List ListPlace
  attrs : Attrs
  content : List Node

namespace Node

def isCounted : Node → Bool
  | text _ => false
  | element tag attrs _ => tag == "li" && !attrs.hasClass Css.noLabelClass

/-- The place in a list when the walk comes to one of its children. -/
def advance (n : Node) (l : ListPlace) : ListPlace := if n.isCounted then (l.1, l.2 + 1) else l

mutual
/-- The items of lists at and below a node, inside of the lists `around`; `list` is the list whose child
the node is. -/
def itemsIn (around : List ListPlace) (list : Option ListPlace) : Node → List ListItem
  | text _ => []
  | element tag attrs children =>
    if tag = "li" then
      (list.map fun l => ⟨l :: around, attrs, children⟩).toList ++
        itemsInAll (list.toList ++ around) none children
    else
      itemsInAll around (if (ElementKind.ofTag? tag).any ElementKind.isList then some (attrs, 0)
        else none) children

def itemsInAll (around : List ListPlace) (list : Option ListPlace) : List Node → List ListItem
  | [] => []
  | n :: rest =>
    itemsIn around (list.map n.advance) n ++ itemsInAll around (list.map n.advance) rest
end

/-- The items of all lists of a document, in document order. -/
def items (n : Node) : List ListItem := n.itemsIn [] none

end Node

/-! ## Labels as text -/

/-- The label in front of some nodes. -/
def Node.labelOf : List Node → Option String
  | .element tag attrs [.text label] :: _ =>
    if tag = "span" ∧ attrs.hasClass Css.labelClass then some label else none
  | _ => none

/-- The label that stands in front of the content of an item. -/
def ListItem.text? (i : ListItem) : Option String := Node.labelOf i.content

/-! ## Labels by counters -/

/-- The position in the innermost list of a style. -/
def ListPlace.position? (lists : List ListPlace) (key : Nat) : Option Nat :=
  (lists.find? fun l => l.1.hasClass (Css.styleName key)).map Prod.snd

def Stylesheet.itemRules (sheet : Stylesheet) (name : String) : List Rule :=
  sheet.rules.filter fun r => r.selector == "." ++ name ++ ">li:not(.la-no-label)::before"

/-- What a stylesheet draws before an item. Its list must have one style, and there must be one rule for
the items of that style. -/
def Stylesheet.drawn? (sheet : Stylesheet) (i : ListItem) : Option String :=
  if i.attrs.hasClass Css.noLabelClass then none
  else
    match i.lists.head?.elim [] (Attrs.styleClasses ·.1) with
    | [name] =>
      match sheet.itemRules (String.ofList name) with
      | [.content _ _ value] => value.shown? (ListPlace.position? i.lists)
      | _ => none
    | _ => none

/-! ## Classes -/

namespace Attrs

theorem styleClasses_of_unclassed {attrs : Attrs} (h : attrs.Unclassed) : attrs.styleClasses = [] := by
  refine List.filter_eq_nil_iff.2 fun word hword hname => ?_
  have hprefix : "la-label".toList <+: word := by
    have := (Bool.and_eq_true_iff.1 (Bool.and_eq_true_iff.1 hname).1).1
    exact List.isPrefixOf_iff_prefix.1 this
  have hla : "la-".toList <+: word := List.IsPrefix.trans (by decide) hprefix
  have := h word hword
  rw [List.isPrefixOf_iff_prefix.2 hla] at this
  cases this

theorem not_hasClass_of_unclassed {attrs : Attrs} (h : attrs.Unclassed) {name : String}
    (hname : "la-".toList.isPrefixOf name.toList = true) : attrs.hasClass name = false := by
  rw [hasClass, List.contains_eq_mem, decide_eq_false_iff_not]
  intro hmem
  rw [h _ hmem] at hname
  cases hname

theorem hasClass_styleName (attrs : Attrs) (key : Nat) :
    attrs.hasClass (Css.styleName key) = true ↔ (Css.styleName key).toList ∈ attrs.styleClasses := by
  rw [hasClass, List.contains_eq_mem, decide_eq_true_eq, styleClasses, List.mem_filter]
  exact ⟨fun h => ⟨h, Css.isStyleName_styleName key⟩, fun h => h.1⟩

theorem styleClasses_drawn {attrs : Attrs} (h : attrs.Unclassed) (key : Nat) :
    ([Css.labelledClass, Css.styleName key].foldl addClass attrs).styleClasses =
      [(Css.styleName key).toList] := by
  have hlabelled : attrs.hasClass Css.labelledClass = false := not_hasClass_of_unclassed h (by decide)
  have hfirst := classes_addClass hlabelled (by decide) (by decide)
  have hstyle : (attrs.addClass Css.labelledClass).hasClass (Css.styleName key) = false := by
    have hother : (Css.styleName key).toList ≠ Css.labelledClass.toList := fun heq => by
      have := Css.isStyleName_styleName key
      rw [heq] at this
      exact absurd this (by decide)
    rw [hasClass, hfirst, List.contains_eq_mem, decide_eq_false_iff_not, List.mem_append,
      List.mem_singleton]
    rintro (hmem | heq)
    · have hprefix := h _ hmem
      rw [Css.isPrefixOf_styleName] at hprefix
      cases hprefix
    · exact hother heq
  have hne : (Css.styleName key).toList ≠ [] := by simp [Css.toList_styleName]
  rw [List.foldl_cons, List.foldl_cons, List.foldl_nil, styleClasses,
    classes_addClass hstyle (no_blank_styleName key) hne, hfirst, List.filter_append,
    List.filter_append]
  have hnone := styleClasses_of_unclassed h
  rw [styleClasses] at hnone
  rw [hnone, List.filter_cons_of_neg (by decide), List.filter_nil,
    List.filter_cons_of_pos (Css.isStyleName_styleName key), List.filter_nil]
  rfl

end Attrs
end Rubric
