import Rubric.Markdown.Builder

/-!
# Elements inside one another

Events are nested if every element that starts finishes, and those that start inside it finish before it does.

* `Nested` : nested events; `closes kinds events` : a check of them with a stack of the elements that are open;
  `nested_iff` : the check decides which events are nested;
* `nested_ofSource` : the events of a source text are nested;
* `nodesOf events` : the nodes that events make in an empty document; `Tag.node tag nodes` : the element of a tag
  around nodes;
* `Nested.run_within` : from its start to its finish, one element is added, around what is inside it;
  `Nested.run_part` : on the way there, nothing outside of the element changes;
* `shownText` : the texts of the events that are not inside images, and `Nested.textContentAll_run` : they come
  behind the text that is there;
* `toNode_eq`, `Builder.events_nested` : whole documents.
-/

namespace Rubric.Markdown
open Node

/-! ## Nested events -/

/-- The event neither starts nor finishes an element. -/
def Event.isContent : Event → Bool
  | .start _ | .finish _ => false
  | _ => true

/-- Every element that starts finishes, in the order of nesting. -/
inductive Nested : List Event → Prop where
  | nil : Nested []
  | content {e : Event} {rest : List Event} (he : e.isContent = true) (hrest : Nested rest) : Nested (e :: rest)
  | element (tag : Tag) {inner rest : List Event} (hinner : Nested inner) (hrest : Nested rest) :
      Nested (Event.within tag inner ++ rest)

/-- Whether every element finishes in its turn, where the stack holds the kinds of those that are open. -/
def closes : List TagKind → List Event → Bool
  | kinds, [] => kinds.isEmpty
  | kinds, .start tag :: rest => closes (tag.kind :: kinds) rest
  | [], .finish _ :: _ => false
  | k :: kinds, .finish kind :: rest => kind = k && closes kinds rest
  | kinds, _ :: rest => closes kinds rest

section Nested
variable {e : Event} {inner rest events : List Event} {kind : TagKind} {kinds : List TagKind}

theorem within_append (tag : Tag) (inner rest : List Event) :
    Event.within tag inner ++ rest = .start tag :: (inner ++ .finish tag.kind :: rest) := by
  simp [Event.within]

theorem Nested.append (h : Nested inner) (hrest : Nested rest) : Nested (inner ++ rest) := by
  induction h with
  | nil => exact hrest
  | content he _ ih => exact .content he ih
  | element tag hinner _ _ ih =>
    rw [List.append_assoc]
    exact .element tag hinner ih

theorem Nested.within (h : Nested inner) (tag : Tag) : Nested (Event.within tag inner) := by
  have := Nested.element tag h .nil
  rwa [List.append_nil] at this

theorem closes_content (he : e.isContent = true) (kinds : List TagKind) (rest : List Event) :
    closes kinds (e :: rest) = closes kinds rest := by
  cases e with
  | start => cases he
  | finish => cases he
  | _ => cases kinds <;> rfl

theorem Nested.closes_append (h : Nested inner) (kinds : List TagKind) (rest : List Event) :
    closes kinds (inner ++ rest) = closes kinds rest := by
  induction h generalizing kinds rest with
  | nil => rfl
  | content he _ ih =>
    rw [List.cons_append, closes_content he]
    exact ih kinds rest
  | @element tag inner after _ _ ihInner ihAfter =>
    rw [List.append_assoc, within_append, closes, ihInner, closes, decide_eq_true rfl, Bool.true_and]
    exact ihAfter kinds rest

/-- The events up to the finish of the innermost open element are nested. -/
theorem exists_nested_of_closes (h : closes (kind :: kinds) events = true) :
    ∃ inner after, events = inner ++ .finish kind :: after ∧ Nested inner ∧ closes kinds after = true := by
  induction hlength : events.length using Nat.strongRecOn generalizing kind kinds events with
  | ind n ih =>
    cases events with
    | nil => cases h
    | cons e rest =>
      rw [List.length_cons] at hlength
      cases e with
      | start tag =>
        -- the element that starts here comes first, and the events behind it are read in turn
        obtain ⟨first, behind, rfl, hfirst, hbehind⟩ :=
          ih rest.length (by omega) (show closes (tag.kind :: kind :: kinds) rest = true from h) rfl
        rw [List.length_append, List.length_cons] at hlength
        obtain ⟨inner, after, rfl, hinner, hafter⟩ := ih behind.length (by omega) hbehind rfl
        refine ⟨Event.within tag first ++ inner, after, ?_, .element tag hfirst hinner, hafter⟩
        rw [List.append_assoc, within_append]
      | finish kind' =>
        obtain ⟨hkind, hrest⟩ := Bool.and_eq_true_iff.1 h
        obtain rfl := of_decide_eq_true hkind
        exact ⟨[], rest, rfl, .nil, hrest⟩
      | _ =>
        rw [closes_content rfl] at h
        obtain ⟨inner, after, rfl, hinner, hafter⟩ := ih rest.length (by omega) h rfl
        exact ⟨_ :: inner, after, rfl, .content rfl hinner, hafter⟩

/-- The check decides which events are nested. -/
theorem nested_iff : Nested events ↔ closes [] events = true := by
  constructor
  · intro h
    have := h.closes_append [] []
    rwa [List.append_nil] at this
  · intro h
    induction hlength : events.length using Nat.strongRecOn generalizing events with
    | ind n ih =>
      cases events with
      | nil => exact .nil
      | cons e rest =>
        rw [List.length_cons] at hlength
        cases e with
        | start tag =>
          obtain ⟨inner, after, rfl, hinner, hafter⟩ :=
            exists_nested_of_closes (show closes [tag.kind] rest = true from h)
          rw [← within_append]
          rw [List.length_append, List.length_cons] at hlength
          exact .element tag hinner (ih after.length (by omega) hafter rfl)
        | finish kind => cases h
        | _ =>
          rw [closes_content rfl] at h
          exact .content rfl (ih rest.length (by omega) h rfl)

instance (events : List Event) : Decidable (Nested events) := decidable_of_iff _ nested_iff.symm

/-- Behind some of the events, the others close what is open then. -/
theorem exists_closes {before : List Event} (h : closes kinds (before ++ rest) = true) :
    ∃ kinds', closes kinds' rest = true := by
  induction before generalizing kinds with
  | nil => exact ⟨kinds, h⟩
  | cons e before ih =>
    rw [List.cons_append] at h
    cases e with
    | start tag => exact ih h
    | finish kind =>
      cases kinds with
      | nil => cases h
      | cons k kinds => exact ih (Bool.and_eq_true_iff.1 h).2
    | _ =>
      rw [closes_content rfl] at h
      exact ih h

/-- An element that starts finishes later, and the events on the way are nested. -/
theorem Nested.exists_finish (h : Nested events) {before : List Event} {tag : Tag}
    (hstart : events = before ++ .start tag :: rest) :
    ∃ inner after, rest = inner ++ .finish tag.kind :: after ∧ Nested inner := by
  rw [hstart, nested_iff] at h
  obtain ⟨kinds, hkinds⟩ := exists_closes h
  obtain ⟨inner, after, hrest, hinner, -⟩ :=
    exists_nested_of_closes (show closes (tag.kind :: kinds) rest = true from hkinds)
  exact ⟨inner, after, hrest, hinner⟩

end Nested

/-! ## The events of a source text -/

theorem nested_ofText (s : List Char) : Nested (Event.ofText s) := by
  rw [Event.ofText]
  split
  · exact .nil
  · exact .content rfl .nil

theorem nested_ofHtml (s : List Char) : Nested (Event.ofHtml s) := by
  rw [Event.ofHtml]
  split
  · exact .nil
  · exact .content rfl .nil

mutual
theorem Inline.nested_events (i : Inline) : Nested i.events := by
  cases i with
  | text s => exact nested_ofText s
  | html s => exact nested_ofHtml s
  | code s => exact .content rfl .nil
  | softBreak => exact .content rfl .nil
  | hardBreak => exact .content rfl .nil
  | emphasis content => exact (Inline.nested_eventsAll content).within _
  | strong content => exact (Inline.nested_eventsAll content).within _
  | strikethrough content => exact (Inline.nested_eventsAll content).within _
  | link target content => exact (Inline.nested_eventsAll content).within _
  | image target content => exact (Inline.nested_eventsAll content).within _

theorem Inline.nested_eventsAll (is : List Inline) : Nested (Inline.eventsAll is) := by
  cases is with
  | nil => exact .nil
  | cons i rest => exact (Inline.nested_events i).append (Inline.nested_eventsAll rest)
end

theorem nested_textEvents (definitions : Definitions) (s : List Char) : Nested (textEvents definitions s) :=
  Inline.nested_eventsAll _

mutual
theorem Block.nested_events (definitions : Definitions) (tight : Bool) (b : Block) :
    Nested (b.events definitions tight) := by
  cases b with
  | paragraph s =>
    cases tight with
    | true => exact nested_textEvents definitions s
    | false => exact (nested_textEvents definitions s).within _
  | heading level attrs s => exact (nested_textEvents definitions s).within _
  | quote blocks => exact (Block.nested_eventsAll definitions false blocks).within _
  | list start tight' items => exact (Block.nested_eventsAll definitions tight' items).within _
  | item blocks => exact (Block.nested_eventsAll definitions tight blocks).within _
  | code info s => exact (nested_ofText s).within _
  | html s => exact (nested_ofHtml s).within _
  | rule => exact .content rfl .nil

theorem Block.nested_eventsAll (definitions : Definitions) (tight : Bool) (bs : List Block) :
    Nested (Block.eventsAll definitions tight bs) := by
  cases bs with
  | nil => exact .nil
  | cons b rest =>
    exact (Block.nested_events definitions tight b).append (Block.nested_eventsAll definitions tight rest)
end

/-- The events of a source text are nested. -/
theorem nested_ofSource (source : String) : Nested (Event.ofSource source) := Block.nested_eventsAll _ _ _

/-! ## What events make -/

/-- The nodes that events make in an empty document. -/
def nodesOf (events : List Event) : List Node := (Builder.run {} events).top

/-- The element of a tag around nodes. An image has the text of the nodes for its description, and code in a block is
inside an element of its own. -/
def Tag.node (tag : Tag) (nodes : List Node) : Node :=
  match tag with
  | .paragraph => .element "p" [] nodes
  | .heading level attrs => .element level.tag (attrs.elim [] HeadingAttrs.toAttrs) nodes
  | .quote => .element "blockquote" [] nodes
  | .codeBlock info => .element "pre" [] [.element "code" (Builder.codeAttrs info) nodes]
  | .list none => .element "ul" [] nodes
  | .list (some first) => .element "ol" (Builder.listAttrs first) nodes
  | .item => .element "li" [] nodes
  | .emphasis => .element "em" [] nodes
  | .strong => .element "strong" [] nodes
  | .strikethrough => .element "del" [] nodes
  | .link target => .element "a" (Builder.targetAttrs "href" target) nodes
  | .image target => .element "img" ((Builder.targetAttrs "src" target).set "alt" (textContentAll nodes)) []
  | .htmlBlock | .other => .element "div" [] nodes

/-- What content adds to nodes. -/
def Event.grow : Event → List Node → List Node
  | .start _ | .finish _ | .other => id
  | .text s | .html s => appendText s
  | .code s => (· ++ [.element "code" [] [.text s]])
  | .softBreak => appendText "\n"
  | .hardBreak => (· ++ [.element "br" [] []])
  | .rule => (· ++ [.element "hr" [] []])

def OpenElement.frame (e : OpenElement) : String × Attrs := (e.tag, e.attrs)

/-- The elements that a tag opens, the innermost first. -/
def Tag.opened (tag : Tag) : List OpenElement := (Builder.start {} tag).elements

namespace Builder
variable {b : Builder}

def chain (b : Builder) : List (String × Attrs) := b.elements.map OpenElement.frame

/-- More elements open inside those that are open. -/
def above (b : Builder) (inside : List OpenElement) : Builder := ⟨inside ++ b.elements, b.top⟩

@[simp] theorem modifyChildren_id : b.modifyChildren id = b := by
  obtain ⟨elements, top⟩ := b
  cases elements <;> rfl

theorem modifyChildren_modifyChildren (f g : List Node → List Node) :
    (b.modifyChildren f).modifyChildren g = b.modifyChildren (g ∘ f) := by
  obtain ⟨elements, top⟩ := b
  cases elements <;> rfl

@[simp] theorem chain_modifyChildren (f : List Node → List Node) : (b.modifyChildren f).chain = b.chain := by
  obtain ⟨elements, top⟩ := b
  cases elements <;> rfl

theorem above_above (inside deeper : List OpenElement) :
    (b.above inside).above deeper = b.above (deeper ++ inside) := by
  simp [above, List.append_assoc]

theorem run_append (b : Builder) (events rest : List Event) : b.run (events ++ rest) = (b.run events).run rest :=
  List.foldl_append

theorem step_content {e : Event} (he : e.isContent = true) (b : Builder) : b.step e = b.modifyChildren e.grow := by
  cases e with
  | start => cases he
  | finish => cases he
  | other => exact modifyChildren_id.symm
  | _ => rfl

/-- A change of the children in an element that has just started stays inside it. -/
theorem exists_modifyChildren_start (b : Builder) (tag : Tag) (f : List Node → List Node) :
    ∃ inside, (b.start tag).modifyChildren f = b.above inside ∧
      inside.map OpenElement.frame = tag.opened.map OpenElement.frame := by
  cases tag with
  | list first => cases first <;> exact ⟨_ :: [], rfl, rfl⟩
  | codeBlock info => exact ⟨_ :: _ :: [], rfl, rfl⟩
  | _ => exact ⟨_ :: [], rfl, rfl⟩

end Builder

namespace Nested
variable {inner events : List Event}

/-- An element is added, around the nodes that the events inside it make. -/
theorem run_within_of_run (tag : Tag)
    (h : ∀ b, Builder.run b inner = b.modifyChildren fun ns => (Builder.run ⟨[], ns⟩ inner).top) (b : Builder) :
    b.run (Event.within tag inner) = b.add (tag.node (nodesOf inner)) := by
  have hrun : b.run (Event.within tag inner) = ((b.start tag).run inner).step (.finish tag.kind) := by
    rw [Event.within, Builder.run_append]
    rfl
  rw [hrun, h]
  cases tag with
  | list first => cases first <;> rfl
  | _ => rfl

/-- Nested events change the children of the innermost open element and nothing else. -/
theorem run_eq (h : Nested events) (b : Builder) :
    b.run events = b.modifyChildren fun ns => (Builder.run ⟨[], ns⟩ events).top := by
  induction h generalizing b with
  | nil => exact Builder.modifyChildren_id.symm
  | @content e rest he _ ih =>
    have hrun (b : Builder) : b.run (e :: rest) = (b.modifyChildren e.grow).run rest := by
      rw [← Builder.step_content he]
      rfl
    rw [hrun, ih, Builder.modifyChildren_modifyChildren]
    congr 1
    funext ns
    rw [hrun]
    rfl
  | @element tag inner rest _ _ ihInner ihRest =>
    have hrun (b : Builder) :
        b.run (Event.within tag inner ++ rest) = (b.modifyChildren (· ++ [tag.node (nodesOf inner)])).run rest := by
      rw [Builder.run_append, run_within_of_run tag ihInner]
      rfl
    rw [hrun, ihRest, Builder.modifyChildren_modifyChildren]
    congr 1
    funext ns
    rw [hrun]
    rfl

/-- From its start to its finish, an element is added around the nodes that the events inside it make. -/
theorem run_within (h : Nested inner) (tag : Tag) (b : Builder) :
    b.run (Event.within tag inner) = b.add (tag.node (nodesOf inner)) := run_within_of_run tag h.run_eq b

/-- Every element of a whole document is finished. -/
theorem elements_run (h : Nested events) : (Builder.run {} events).elements = [] := by
  rw [h.run_eq]
  rfl

/-- Along nested events, everything happens in the innermost open element or in elements inside it. -/
theorem exists_run_part (h : Nested events) {part later : List Event} (hpart : part ++ later = events) (b : Builder) :
    ∃ inside f, b.run part = (b.modifyChildren f).above inside := by
  have hnone (b : Builder) : ∃ inside f, b.run [] = (b.modifyChildren f).above inside :=
    ⟨[], id, by rw [Builder.modifyChildren_id]; rfl⟩
  induction h generalizing part later b with
  | nil =>
    rw [(List.append_eq_nil_iff.1 hpart).1]
    exact hnone b
  | @content e rest he _ ih =>
    cases part with
    | nil => exact hnone b
    | cons e' part =>
      obtain ⟨rfl, hrest⟩ := List.cons.inj hpart
      obtain ⟨inside, f, hrun⟩ := ih hrest (b.step e')
      refine ⟨inside, f ∘ e'.grow, ?_⟩
      rw [← Builder.modifyChildren_modifyChildren, ← Builder.step_content he]
      exact hrun
  | @element tag inner rest hinner _ ihInner ihRest =>
    have hinside {part later : List Event} (hpart : part ++ later = inner) :
        ∃ inside f, b.run (.start tag :: part) = (b.modifyChildren f).above inside := by
      obtain ⟨deeper, f, hrun⟩ := ihInner hpart (b.start tag)
      obtain ⟨outer, houter, -⟩ := Builder.exists_modifyChildren_start b tag f
      rw [houter, Builder.above_above] at hrun
      exact ⟨deeper ++ outer, id, by rw [Builder.modifyChildren_id]; exact hrun⟩
    rw [within_append] at hpart
    cases part with
    | nil => exact hnone b
    | cons e' part =>
      obtain ⟨rfl, hrest⟩ := List.cons.inj hpart
      -- up to its finish everything is inside the element, and behind it the rest goes on
      rcases List.append_eq_append_iff.1 hrest with ⟨left, hleft, -⟩ | ⟨more, rfl, hmore⟩
      · exact hinside hleft.symm
      · cases more with
        | nil =>
          rw [List.append_nil]
          exact hinside (List.append_nil inner)
        | cons e' more =>
          obtain ⟨rfl, hlater⟩ := List.cons.inj hmore
          obtain ⟨inside, f, hrun⟩ := ihRest hlater.symm (b.add (tag.node (nodesOf inner)))
          refine ⟨inside, f ∘ (· ++ [tag.node (nodesOf inner)]), ?_⟩
          rw [← within_append, Builder.run_append, hinner.run_within, hrun, Builder.add,
            Builder.modifyChildren_modifyChildren]

/-- Inside an element, what was open stays as it was, and the element is open inside it. -/
theorem run_part (h : Nested inner) {part : List Event} (hpart : part <+: inner) (tag : Tag) (b : Builder) :
    ∃ inside, b.run (.start tag :: part) = b.above inside ∧
      tag.opened.map OpenElement.frame <:+ inside.map OpenElement.frame := by
  obtain ⟨later, hpart⟩ := hpart
  obtain ⟨deeper, f, hrun⟩ := h.exists_run_part hpart (b.start tag)
  obtain ⟨outer, houter, hframes⟩ := Builder.exists_modifyChildren_start b tag f
  rw [houter, Builder.above_above] at hrun
  refine ⟨deeper ++ outer, hrun, ?_⟩
  rw [List.map_append, hframes]
  exact List.suffix_append ..

end Nested

/-! ## Text -/

/-- The text of an event. -/
def Event.shown : Event → String
  | .text s | .code s | .html s => s
  | .softBreak => "\n"
  | .start _ | .finish _ | .hardBreak | .rule | .other => ""

/-- How many images are open behind the start of an element. -/
def TagKind.enter (kind : TagKind) (images : Nat) : Nat := if kind = .image then images + 1 else images

/-- How many images are open behind the finish of an element. -/
def TagKind.leave (kind : TagKind) (images : Nat) : Nat := if kind = .image then images - 1 else images

@[simp] theorem TagKind.leave_enter (kind : TagKind) (images : Nat) : kind.leave (kind.enter images) = images := by
  cases kind <;> rfl

/-- The texts of the events that are not inside images, joined, where so many images are open. -/
def shownText : Nat → List Event → String
  | _, [] => ""
  | images, .start tag :: rest => shownText (tag.kind.enter images) rest
  | images, .finish kind :: rest => shownText (kind.leave images) rest
  | images, e :: rest => (if images = 0 then e.shown else "") ++ shownText images rest

section Text
variable {inner rest events : List Event}

theorem shownText_content {e : Event} (he : e.isContent = true) (images : Nat) (rest : List Event) :
    shownText images (e :: rest) = (if images = 0 then e.shown else "") ++ shownText images rest := by
  cases e with
  | start => cases he
  | finish => cases he
  | _ => rfl

theorem Nested.shownText_append (h : Nested inner) (images : Nat) (rest : List Event) :
    shownText images (inner ++ rest) = shownText images inner ++ shownText images rest := by
  induction h generalizing images rest with
  | nil => exact String.empty_append.symm
  | content he _ ih =>
    rw [List.cons_append, shownText_content he, shownText_content he, ih, String.append_assoc]
  | @element tag inner after hinner _ ihInner ihAfter =>
    have helement (rest : List Event) : shownText images (Event.within tag inner ++ rest) =
        shownText (tag.kind.enter images) inner ++ shownText images rest := by
      rw [within_append, shownText, ihInner, shownText, TagKind.leave_enter]
    rw [List.append_assoc, helement, helement, ihAfter, String.append_assoc]

theorem Nested.shownText_within (h : Nested inner) (tag : Tag) (images : Nat) (rest : List Event) :
    shownText images (Event.within tag inner ++ rest) =
      shownText (tag.kind.enter images) inner ++ shownText images rest := by
  rw [within_append, shownText, h.shownText_append, shownText, TagKind.leave_enter]

theorem Nested.shownText_succ (h : Nested inner) (images : Nat) : shownText (images + 1) inner = "" := by
  induction h generalizing images with
  | nil => rfl
  | content he _ ih => rw [shownText_content he, ih, if_neg (Nat.succ_ne_zero _), String.append_empty]
  | element tag hinner _ ihInner ihRest =>
    rw [hinner.shownText_within, ihRest, String.append_empty, TagKind.enter]
    split
    · exact ihInner _
    · exact ihInner _

theorem textContentAll_concat (ns : List Node) (n : Node) :
    textContentAll (ns ++ [n]) = textContentAll ns ++ n.textContent := by
  rw [textContentAll_append, textContentAll, textContentAll, String.append_empty]

theorem textContentAll_appendText (s : String) (ns : List Node) :
    textContentAll (appendText s ns) = textContentAll ns ++ s := by
  rcases appendText_cases s ns with ⟨front, t, rfl, htext⟩ | htext
  · rw [htext, textContentAll_concat, textContentAll_concat, textContent, textContent, String.append_assoc]
  · rw [htext, textContentAll_concat, textContent]

theorem textContentAll_grow (e : Event) (ns : List Node) :
    textContentAll (e.grow ns) = textContentAll ns ++ e.shown := by
  cases e with
  | text s => exact textContentAll_appendText s ns
  | html s => exact textContentAll_appendText s ns
  | softBreak => exact textContentAll_appendText "\n" ns
  | code s => simp [Event.grow, Event.shown, textContentAll_concat, textContent, textContentAll]
  | hardBreak => simp [Event.grow, Event.shown, textContentAll_concat, textContent, textContentAll]
  | rule => simp [Event.grow, Event.shown, textContentAll_concat, textContent, textContentAll]
  | _ => exact String.append_empty.symm

theorem textContent_node (tag : Tag) (ns : List Node) :
    (tag.node ns).textContent = if tag.kind = .image then "" else textContentAll ns := by
  cases tag with
  | codeBlock info => simp [Tag.node, Tag.kind, textContent, textContentAll]
  | list first => cases first <;> rfl
  | _ => rfl

/-- The texts that are not inside images come behind the text that is there. -/
theorem Nested.textContentAll_run (h : Nested events) (ns : List Node) :
    textContentAll (Builder.run ⟨[], ns⟩ events).top = textContentAll ns ++ shownText 0 events := by
  induction h generalizing ns with
  | nil => exact String.append_empty.symm
  | @content e rest he _ ih =>
    have hrun : Builder.run ⟨[], ns⟩ (e :: rest) = Builder.run ⟨[], e.grow ns⟩ rest :=
      congrArg (Builder.run · rest) (Builder.step_content he _)
    rw [hrun, ih, textContentAll_grow, shownText_content he, if_pos rfl, String.append_assoc]
  | @element tag inner rest hinner _ ihInner ihRest =>
    have hrun : Builder.run ⟨[], ns⟩ (Event.within tag inner ++ rest) =
        Builder.run ⟨[], ns ++ [tag.node (nodesOf inner)]⟩ rest := by
      rw [Builder.run_append, hinner.run_within]
      rfl
    have hinside : textContentAll (nodesOf inner) = shownText 0 inner :=
      (ihInner []).trans String.empty_append
    rw [hrun, ihRest, textContentAll_concat, textContent_node, hinside, hinner.shownText_within, String.append_assoc,
      TagKind.enter]
    split
    · rw [hinner.shownText_succ]
    · rfl

theorem Nested.textContentAll_nodesOf (h : Nested events) : textContentAll (nodesOf events) = shownText 0 events :=
  (h.textContentAll_run []).trans String.empty_append

end Text

/-! ## Whole documents -/

/-- The document of a source text has the nodes of its events, and their text. -/
theorem toNode_eq (source : String) :
    toNode source = .root (nodesOf (Event.ofSource source)) ∧
      (toNode source).textContent = shownText 0 (Event.ofSource source) := by
  have h := nested_ofSource source
  have hnode : toNode source = .root (nodesOf (Event.ofSource source)) := by
    rw [toNode, Builder.toNode, h.elements_run]
    rfl
  refine ⟨hnode, ?_⟩
  rw [hnode]
  exact h.textContentAll_nodesOf

/-- When nested events have been read, no element is open, and the text of the document is that of the events which
are not inside images. Every element that starts finishes later, with nested events in between. Along these, the
elements that were open stay as they are, children included, with the new element open inside them. In the end those
elements are open again, and the innermost of them has one more child: the new element around the nodes of the events
inside it, which have their text. -/
theorem Builder.events_nested {events : List Event} (h : Nested events) :
    (run {} events).elements = [] ∧ textContentAll (nodesOf events) = shownText 0 events ∧
      (∀ before tag rest, events = before ++ .start tag :: rest →
        ∃ inner after, rest = inner ++ .finish tag.kind :: after ∧ Nested inner) ∧
      ∀ before tag inner after, events = before ++ (Event.within tag inner ++ after) → Nested inner →
        (∀ part, part <+: inner →
          ∃ inside, run {} (before ++ .start tag :: part) = (run {} before).above inside ∧
            tag.opened.map OpenElement.frame <:+ inside.map OpenElement.frame) ∧
        (run {} (before ++ Event.within tag inner)).chain = (run {} before).chain ∧
        run {} (before ++ Event.within tag inner) = (run {} before).add (tag.node (nodesOf inner)) ∧
        textContentAll (nodesOf inner) = shownText 0 inner := by
  refine ⟨h.elements_run, h.textContentAll_nodesOf, fun before tag rest hstart => h.exists_finish hstart, ?_⟩
  intro before tag inner after _ hinner
  have hwithin : run {} (before ++ Event.within tag inner) = (run {} before).add (tag.node (nodesOf inner)) := by
    rw [run_append, hinner.run_within]
  refine ⟨fun part hpart => ?_, ?_, hwithin, hinner.textContentAll_nodesOf⟩
  · rw [run_append]
    exact hinner.run_part hpart tag _
  · rw [hwithin]
    exact chain_modifyChildren _

/-- An image and a block of code in a quotation. What is inside the image is its description and no text. -/
theorem Builder.events_nested_image :
    let inner : List Event := [.text "b", .code "c"]
    let image : Tag := .image ⟨"i.png", ""⟩
    let events : List Event := [.start .quote, .text "a"] ++ (Event.within image inner ++
      [.softBreak, .start (.codeBlock (some "x")), .text "d", .finish .codeBlock, .finish .other])
    Nested events ∧ textContentAll (nodesOf events) = "a\nd" ∧
      (run {} ([.start .quote, .text "a"] ++ Event.within image inner)).chain = [("blockquote", [])] ∧
      textContentAll (nodesOf inner) = "bc" := by
  intro inner image events
  have hnested : Nested events := by decide
  have hinner : Nested inner := by decide
  obtain ⟨-, htext, -, hpairs⟩ := events_nested hnested
  obtain ⟨-, hchain, -, hinside⟩ := hpairs _ image inner _ rfl hinner
  exact ⟨hnested, htext, hchain, hinside⟩

end Rubric.Markdown
