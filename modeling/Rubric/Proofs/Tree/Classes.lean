import Rubric.Proofs.Tree.Attrs
import Rubric.Proofs.Tree.Links

/-!
# Class lists as sets

* `Attrs.IsClassName` : the texts that can be classes;
* `Document.get?_modifyAttrs_self`, `Document.get?_modifyAttrs_of_ne` : the nodes after a change of attributes;
* `Document.addClass_as_set` : what a class does to the class list of an element, and that it does nothing else.
-/

namespace Rubric

/-- A text that can be a class: it is not empty, and no character of it is a blank. -/
structure Attrs.IsClassName (name : String) : Prop where
  ne_nil : name.toList ≠ []
  no_blank : name.toList.any Text.isBlank = false

instance (name : String) : Decidable (Attrs.IsClassName name) :=
  decidable_of_iff (name.toList ≠ [] ∧ name.toList.any Text.isBlank = false)
    ⟨fun ⟨hne, hblank⟩ => ⟨hne, hblank⟩, fun h => ⟨h.ne_nil, h.no_blank⟩⟩

namespace Attrs
variable {name name' : String}

theorem hasClass_addClass_iff (h : IsClassName name) (attrs : Attrs) (other : String) :
    (attrs.addClass name).hasClass other = true ↔ attrs.hasClass other = true ∨ other = name := by
  rw [hasClass_addClass_of_word h.no_blank h.ne_nil, Bool.or_eq_true, beq_iff_eq]

theorem addClass_addClass_self (h : IsClassName name) (attrs : Attrs) :
    (attrs.addClass name).addClass name = attrs.addClass name :=
  addClass_of_hasClass ((hasClass_addClass_iff h attrs name).2 (Or.inr rfl))

theorem hasClass_addClass_comm (h : IsClassName name) (h' : IsClassName name') (attrs : Attrs) (other : String) :
    ((attrs.addClass name).addClass name').hasClass other = ((attrs.addClass name').addClass name).hasClass other := by
  rw [Bool.eq_iff_iff, hasClass_addClass_iff h', hasClass_addClass_iff h, hasClass_addClass_iff h,
    hasClass_addClass_iff h', or_right_comm]

end Attrs

namespace Document
variable {d d' : Document} {m n : NodeId} {tag : String} {attrs : Attrs} {parent : Option NodeId}
  {children : List NodeId}

theorem ext_get? (h : ∀ m, d.get? m = d'.get? m) : d = d' := by
  obtain ⟨entries⟩ := d
  obtain ⟨entries'⟩ := d'
  exact congrArg Document.mk (Array.ext_getElem? h)

/-- The element whose attributes change is otherwise as it was. -/
theorem get?_modifyAttrs_self (h : d.get? n = some ⟨.element tag attrs, parent, children⟩) (f : Attrs → Attrs) :
    (d.modifyAttrs n f).get? n = some ⟨.element tag (f attrs), parent, children⟩ := by
  rw [modifyAttrs, get?_modify, if_pos rfl, h]
  rfl

theorem get?_modifyAttrs_of_ne (h : m ≠ n) (f : Attrs → Attrs) : (d.modifyAttrs n f).get? m = d.get? m := by
  rw [modifyAttrs, get?_modify, if_neg h.symm]

theorem modifyAttrs_eq_self (h : d.get? n = some ⟨.element tag attrs, parent, children⟩) {f : Attrs → Attrs}
    (hf : f attrs = attrs) : d.modifyAttrs n f = d := by
  refine ext_get? fun m => ?_
  by_cases hm : m = n
  · rw [hm, get?_modifyAttrs_self h, hf, h]
  · exact get?_modifyAttrs_of_ne hm f

theorem hasClass_of_element (h : d.get? n = some ⟨.element tag attrs, parent, children⟩) (name : String) :
    d.hasClass n name = attrs.hasClass name := by
  simp [hasClass, attrs?, h]

theorem attr?_of_element (h : d.get? n = some ⟨.element tag attrs, parent, children⟩) (name : String) :
    d.attr? n name = attrs.get? name := by
  simp [attr?, attrs?, h]

/-- Classes of an element are a set. A class that is added comes to those that are there. Added again it changes
nothing, and two classes can be added in either order. The other attributes of the element stay in their order, the
element keeps its tag and its place, and no other node changes. -/
theorem addClass_as_set {name : String} (h : d.get? n = some ⟨.element tag attrs, parent, children⟩)
    (hname : Attrs.IsClassName name) :
    (∀ other, (d.addClass n name).hasClass n other = true ↔ d.hasClass n other = true ∨ other = name) ∧
      (d.addClass n name).addClass n name = d.addClass n name ∧
      (∀ name', Attrs.IsClassName name' → ∀ other,
        ((d.addClass n name).addClass n name').hasClass n other =
          ((d.addClass n name').addClass n name).hasClass n other) ∧
      (∀ other, other ≠ "class" → (d.addClass n name).attr? n other = d.attr? n other) ∧
      (∃ attrs', (d.addClass n name).get? n = some ⟨.element tag attrs', parent, children⟩ ∧
        attrs'.erase "class" = attrs.erase "class") ∧
      (∀ m, m ≠ n → (d.addClass n name).get? m = d.get? m) ∧ (d.addClass n name).size = d.size := by
  have hadd (name : String) :
      (d.addClass n name).get? n = some ⟨.element tag (attrs.addClass name), parent, children⟩ :=
    get?_modifyAttrs_self h _
  have hboth (name name' : String) (other : String) : ((d.addClass n name).addClass n name').hasClass n other =
      ((attrs.addClass name).addClass name').hasClass other :=
    hasClass_of_element (get?_modifyAttrs_self (hadd name) _) other
  refine ⟨fun other => ?_, ?_, fun name' hname' other => ?_, fun other hother => ?_, ?_, fun m hm => ?_, ?_⟩
  · rw [hasClass_of_element (hadd name), hasClass_of_element h]
    exact Attrs.hasClass_addClass_iff hname attrs other
  · exact modifyAttrs_eq_self (hadd name) (Attrs.addClass_addClass_self hname attrs)
  · rw [hboth, hboth]
    exact Attrs.hasClass_addClass_comm hname hname' attrs other
  · rw [attr?_of_element (hadd name), attr?_of_element h]
    exact Attrs.get?_addClass_of_ne attrs hother
  · exact ⟨_, hadd name, Attrs.erase_addClass attrs name⟩
  · exact get?_modifyAttrs_of_ne hm _
  · exact size_modify _

/-- Blanks of all kinds stand around the classes of this element, and the empty class is none of them. -/
theorem addClass_as_set_blanks :
    let d : Document := ⟨#[⟨.element "p" [("id", "x"), ("class", "\u00a0a\u3000 b ")], none, []⟩]⟩
    Attrs.IsClassName "c" ∧
      (∀ other, (d.addClass 0 "c").hasClass 0 other = true ↔ d.hasClass 0 other = true ∨ other = "c") ∧
      d.hasClass 0 "a" = true ∧ d.hasClass 0 "" = false ∧ (d.addClass 0 "c").attr? 0 "id" = some "x" ∧
      (d.addClass 0 "c").attr? 0 "class" = some "\u00a0a\u3000 b  c" := by
  intro d
  have hname : Attrs.IsClassName "c" := by decide
  obtain ⟨hset, -, -, hother, -⟩ := addClass_as_set (d := d) (n := 0) rfl hname
  exact ⟨hname, hset, by decide, by decide, hother "id" (by decide), by decide⟩

end Document
end Rubric
