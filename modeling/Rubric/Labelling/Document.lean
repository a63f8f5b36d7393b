import Rubric.Labelling.Run
import Rubric.Tree.Document

/-!
# Labelling in place

* `Document.settle` : writes a labelled draft of a subtree into the document. Nodes that stay keep
  their handles;
* `Document.label` : labels a document, from its root on;
* `Canvas` : a document and its stylesheet while labels are drawn one by one.
-/

namespace Rubric
namespace Document

/-- A new tree that is not below any other node. -/
def createTree (d : Document) : Node → NodeId × Document
  | .text s => d.createText s
  | .element tag attrs children =>
    let (n, d) := d.create (.element tag attrs)
    (n, d.addTrees n children)

def createTrees (d : Document) : List Node → List NodeId × Document
  | [] => ([], d)
  | x :: rest =>
    let (n, d) := d.createTree x
    let (ns, d) := d.createTrees rest
    (n :: ns, d)

/-- Puts a label in front of the content of an element. -/
def insertLabel (d : Document) (typeset : Draft.Typesetting) (n : NodeId) (label : String) :
    Document :=
  let (span, d) := d.createTree (Draft.labelSpan typeset label)
  d.insertChild n 0 span

mutual
/-- Writes a draft of the subtree at a node into the document. -/
def settle (typeset : Draft.Typesetting) (table : RefTable) (d : Document) (n : NodeId) :
    Draft → Document
  | .text _ => d
  | .split target pieces =>
    let (ids, d) := d.createTrees (pieces.map (Draft.pieceNode typeset table target))
    d.replaceWith n ids
  | .element _ attrs label children =>
    let d := (settleAll typeset table d (d.children n) children).modifyAttrs n fun _ => attrs
    label.elim d (d.insertLabel typeset n)

def settleAll (typeset : Draft.Typesetting) (table : RefTable) (d : Document) :
    List NodeId → List Draft → Document
  | _, [] => d
  | [], _ :: _ => d
  | n :: ns, x :: xs => settleAll typeset table (settle typeset table d n x) ns xs
end

/-- The outcome of a run on a document. -/
structure Labelled where
  document : Document
  result : Except LabelError LabelReport
  /-- The templates that were read. -/
  context : Template.Context

/-- Labels a document. -/
def label (d : Document) (l : Labelling) (c : Template.Context) : Labelled :=
  let run := l.draft c (.ofNode (d.subtree root))
  { document := settle l.typeset run.state.refs d root run.draft
    result := run.state.result
    context := run.state.context }

end Document

/-! ## Single labels -/

/-- A document and its stylesheet while labels are drawn. -/
structure Canvas where
  document : Document
  stylesheet : Stylesheet := {}
  /-- The lists that have been styled. -/
  containers : List (NodeId × ContainerState) := []

namespace Canvas

def container (c : Canvas) (n : NodeId) : ContainerState := (c.containers.lookup n).getD {}

/-- Puts what a label adds to an element and to the list that holds it. -/
def paint (c : Canvas) (typeset : Draft.Typesetting) (list element : NodeId) (drawing : Drawing) :
    Canvas :=
  let d := c.document.modifyAttrs element fun _ => drawing.attrs
  let d := drawing.containerClasses.foldl (·.addClass list ·) d
  { c with
    document := drawing.label.elim d (d.insertLabel typeset element)
    stylesheet := c.stylesheet.addAll drawing.rules }

/-- Draws the present label of a series on an element: in a list by the means of the mode, and
outside of lists as text. -/
def drawLabel (c : Canvas) (typeset : Draft.Typesetting) (styled : Bool) (r : Roster)
    (id : SeriesId) (list : Option NodeId) (element : NodeId) : Canvas :=
  match list with
  | none => { c with document := c.document.insertLabel typeset element (r.text id) }
  | some list =>
    let (drawing, state) :=
      r.drawItem styled id (c.container list) ((c.document.attrs? element).getD [])
    { c.paint typeset list element drawing with
      containers := (list, state) :: c.containers.filter fun entry => entry.1 != list }

/-- Marks an element of a list as one without a label. -/
def leaveUnlabelled (c : Canvas) (list : Option NodeId) (element : NodeId) : Canvas :=
  if list.isSome then { c with document := c.document.addClass element Css.noLabelClass } else c

end Canvas
end Rubric
