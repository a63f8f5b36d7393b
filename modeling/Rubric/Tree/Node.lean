import Rubric.Tree.Attrs

/-!
# Document trees

* `Node` : text, or an element with a tag, attributes and children;
* `Node.root` : a whole document, an element with a tag of its own;
* `Node.textContent` : all text at or below a node, joined;
* `Node.preorder` : a node and the nodes below it, in document order.
-/

namespace Rubric

/-- A node of a document. -/
inductive Node where
  | text (content : String)
  | element (tag : String) (attrs : Attrs) (children : List Node)
deriving Repr, Inhabited

namespace Node

def rootTag : String := "#document"

/-- The document with the given top-level nodes. -/
def root (children : List Node) : Node := element rootTag [] children

def children : Node → List Node
  | text _ => []
  | element _ _ children => children

def tag? : Node → Option String
  | text _ => none
  | element tag .. => some tag

def attrs? : Node → Option Attrs
  | text _ => none
  | element _ attrs _ => some attrs

mutual
/-- The text at and below a node, joined. -/
def textContent : Node → String
  | text content => content
  | element _ _ children => textContentAll children

def textContentAll : List Node → String
  | [] => ""
  | n :: rest => n.textContent ++ textContentAll rest
end

mutual
/-- A node and the nodes below it, in document order. -/
def preorder : Node → List Node
  | text content => [text content]
  | element tag attrs children => element tag attrs children :: preorderAll children

def preorderAll : List Node → List Node
  | [] => []
  | n :: rest => n.preorder ++ preorderAll rest
end

/-! ## Small facts -/

theorem textContentAll_append (ns ms : List Node) :
    textContentAll (ns ++ ms) = textContentAll ns ++ textContentAll ms := by
  induction ns with
  | nil => exact (String.empty_append).symm
  | cons n rest ih => rw [List.cons_append, textContentAll, ih, textContentAll, String.append_assoc]

end Node
end Rubric
