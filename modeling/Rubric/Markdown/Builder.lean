import Rubric.Markdown.Event
import Rubric.Tree.Node

/-!
# Documents from events

* `Builder` : the elements that are open, with the nodes they have so far;
* `Builder.step` : what an event adds. An image takes the text inside it for its description and has
  no children; code in a block is inside two elements; text joins the text in front of it;
* `Markdown.toNode` : the document of a source text.
-/

namespace Rubric.Markdown

/-- An element that is open. -/
structure OpenElement where
  tag : String
  attrs : Attrs
  children : List Node := []

def OpenElement.close (e : OpenElement) : Node := .element e.tag e.attrs e.children

/-- The elements that are open. -/
structure Builder where
  /-- Innermost first. -/
  elements : List OpenElement := []
  /-- The top-level nodes so far. -/
  top : List Node := []

/-- Text behind nodes. It joins text that stands last. -/
def appendText (s : String) : List Node → List Node
  | [] => [.text s]
  | [.text t] => [.text (t ++ s)]
  | n :: rest => n :: appendText s rest

theorem appendText_cases (s : String) (ns : List Node) :
    (∃ front t, ns = front ++ [.text t] ∧ appendText s ns = front ++ [.text (t ++ s)]) ∨
      appendText s ns = ns ++ [.text s] := by
  fun_induction appendText s ns with
  | case1 => exact Or.inr rfl
  | case2 t => exact Or.inl ⟨[], t, rfl, rfl⟩
  | case3 n rest _ ih =>
    rcases ih with ⟨front, t, hrest, htext⟩ | htext
    · exact Or.inl ⟨n :: front, t, congrArg (n :: ·) hrest, congrArg (n :: ·) htext⟩
    · exact Or.inr (congrArg (n :: ·) htext)

namespace Builder

def modifyChildren (b : Builder) (f : List Node → List Node) : Builder :=
  match b.elements with
  | [] => { b with top := f b.top }
  | e :: rest => { b with elements := { e with children := f e.children } :: rest }

def add (b : Builder) (n : Node) : Builder := b.modifyChildren (· ++ [n])

def addText (b : Builder) (s : String) : Builder := b.modifyChildren (appendText s)

def push (b : Builder) (tag : String) (attrs : Attrs := []) : Builder :=
  { b with elements := ⟨tag, attrs, []⟩ :: b.elements }

def pop (b : Builder) : Builder :=
  match b.elements with
  | [] => b
  | e :: rest => { b with elements := rest }.add e.close

/-- Turns the content of the innermost element into its description. -/
def describe (b : Builder) : Builder :=
  match b.elements with
  | [] => b
  | e :: rest =>
    { b with
      elements := { e with
        attrs := e.attrs.set "alt" (Node.textContentAll e.children), children := [] } :: rest }

def targetAttrs (name : String) (t : LinkTarget) : Attrs :=
  Attrs.ofList ((name, t.destination) :: if t.title.isEmpty then [] else [("title", t.title)])

/-- The attributes of a list: its first number unless that is one. -/
def listAttrs (first : Nat) : Attrs := if first = 1 then [] else [("start", toString first)]

/-- The attributes of code in a block: a class for its language if there is one. -/
def codeAttrs : Option String → Attrs
  | none => []
  | some lang => if lang.isEmpty then [] else Attrs.addClass [] ("language-" ++ lang)

/-- Opens the elements of a tag. -/
def start (b : Builder) : Tag → Builder
  | .paragraph => b.push "p"
  | .heading level attrs => b.push level.tag (attrs.elim [] HeadingAttrs.toAttrs)
  | .quote => b.push "blockquote"
  | .codeBlock info => (b.push "pre").push "code" (codeAttrs info)
  | .list none => b.push "ul"
  | .list (some first) => b.push "ol" (listAttrs first)
  | .item => b.push "li"
  | .emphasis => b.push "em"
  | .strong => b.push "strong"
  | .strikethrough => b.push "del"
  | .link target => b.push "a" (targetAttrs "href" target)
  | .image target => b.push "img" (targetAttrs "src" target)
  | .htmlBlock | .other => b.push "div"

def step (b : Builder) : Event → Builder
  | .start tag => b.start tag
  | .finish .image => b.describe.pop
  | .finish .codeBlock => b.pop.pop
  | .finish .other => b.pop
  | .text s => b.addText s
  | .code s => ((b.push "code").addText s).pop
  | .html s => b.addText s
  | .softBreak => b.addText "\n"
  | .hardBreak => b.add (.element "br" [] [])
  | .rule => b.add (.element "hr" [] [])
  | .other => b

def run (b : Builder) (events : List Event) : Builder := events.foldl step b

/-- The document so far, every element closed. -/
def toNode (b : Builder) : Node := .root (Nat.repeat pop b.elements.length b).top

end Builder

def toNode (source : String) : Node := (Builder.run {} (Event.ofSource source)).toNode

end Rubric.Markdown
