import Rubric.Css.Stylesheet
import Rubric.Reference
import Rubric.Tree.Node

/-!
# Drafts

A draft is a document in the making: it has the shape of the document, its text may be split into
pieces, and its elements may have a label.

* `Draft.ofNode` : a document as a draft;
* `Draft.markRefs` : splits the text inside links to ids of the document;
* `Draft.refKeys` : what the references ask for;
* `Typesetting` : how generated text becomes nodes, which a walk leaves alone;
* `Draft.toNode` : the document of a draft, with labels put in front and references filled in.
-/

namespace Rubric

/-- A node of a document in the making. -/
inductive Draft where
  | text (content : String)
  /-- Text inside a link to an id, in pieces. -/
  | split (target : String) (pieces : List Piece)
  /-- An element, and the text of its label if it has one. -/
  | element (tag : String) (attrs : Attrs) (label : Option String) (children : List Draft)
deriving Inhabited

namespace Draft

mutual
def ofNode : Node → Draft
  | .text content => text content
  | .element tag attrs children => element tag attrs none (ofNodes children)

def ofNodes : List Node → List Draft
  | [] => []
  | n :: rest => ofNode n :: ofNodes rest
end

/-! ## References -/

/-- The id that an element is a link to. -/
def localTarget? (tag : String) (attrs : Attrs) : Option String :=
  if tag = "a" then
    match (attrs.get? "href").map String.toList with
    | some ('#' :: c :: id) => some (String.ofList (c :: id))
    | _ => none
  else none

/-- The id that text inside an element refers to. The outermost link counts, and a finished reference
shields what is inside it. -/
def targetInside (target : Option String) (tag : String) (attrs : Attrs) : Option String :=
  (if attrs.hasClass Css.refClass then none else target) <|> localTarget? tag attrs

/-- Text that refers to an id, split if there is a marker in it. -/
def markText (target content : String) : Draft :=
  let pieces := Piece.scan content
  if pieces.any Piece.isMarker then split target pieces else text content

mutual
/-- Splits the text inside links. -/
def markRefs (target : Option String) : Draft → Draft
  | text content => target.elim (text content) (markText · content)
  | split t pieces => split t pieces
  | element tag attrs label children =>
    element tag attrs label (markRefsAll (targetInside target tag attrs) children)

def markRefsAll (target : Option String) : List Draft → List Draft
  | [] => []
  | d :: rest => markRefs target d :: markRefsAll target rest
end

/-- What the markers in pieces of text ask for. -/
def pieceKeys (target : String) (pieces : List Piece) : List RefKey :=
  pieces.filterMap fun p => p.selector?.map (⟨target, ·⟩)

mutual
/-- What the references of a draft ask for, in document order. -/
def refKeys : Draft → List RefKey
  | text _ => []
  | split target pieces => pieceKeys target pieces
  | element _ _ _ children => refKeysAll children

def refKeysAll : List Draft → List RefKey
  | [] => []
  | d :: rest => refKeys d ++ refKeysAll rest
end

/-! ## The finished document -/

/-- How generated text becomes nodes of the document. A walk never enters these nodes, also where a reference
has been filled in before the walk comes to it. So this is a model of typesettings whose nodes a walk leaves as
they are, with no headings, lists, ids or directives in them, such as `plainText`. -/
abbrev Typesetting := String → List Node

/-- Generated text as one text node. -/
def plainText : Typesetting := fun s => [.text s]

def labelSpan (typeset : Typesetting) (label : String) : Node :=
  .element "span" [("class", Css.labelClass)] (typeset label)

/-- The element that stands for a marker: it shows the label if there is one, and else the marker. -/
def refSpan (typeset : Typesetting) (marker : List Char) (label : Option String) : Node :=
  .element "span" [("class", Css.refClass)]
    (label.elim [.text (String.ofList marker)] typeset)

def pieceNode (typeset : Typesetting) (table : RefTable) (target : String) : Piece → Node
  | .literal s => .text (String.ofList s)
  | .marker s selector =>
    refSpan typeset s (selector.bind fun sel => table.label? ⟨target, sel⟩)

mutual
def toNodes (typeset : Typesetting) (table : RefTable) : Draft → List Node
  | text content => [.text content]
  | split target pieces => pieces.map (pieceNode typeset table target)
  | element tag attrs label children =>
    [.element tag attrs
      ((label.map (labelSpan typeset)).toList ++ toNodesAll typeset table children)]

def toNodesAll (typeset : Typesetting) (table : RefTable) : List Draft → List Node
  | [] => []
  | d :: rest => toNodes typeset table d ++ toNodesAll typeset table rest
end

def toNode (typeset : Typesetting) (table : RefTable) (d : Draft) : Node :=
  match toNodes typeset table d with
  | [n] => n
  | nodes => .root nodes

@[simp] theorem toNode_element (typeset : Typesetting) (table : RefTable) (tag : String)
    (attrs : Attrs) (label : Option String) (children : List Draft) :
    (element tag attrs label children).toNode typeset table =
      .element tag attrs
        ((label.map (labelSpan typeset)).toList ++ toNodesAll typeset table children) := by
  simp [toNode, toNodes]

end Draft

/-- Notes what the references of a draft ask for. -/
def RefTable.awaitAll (t : RefTable) (keys : List RefKey) : RefTable := keys.foldl await t

end Rubric
