import Rubric.Tree.Html

/-!
# Documents that can be edited

* `Document` : a store of nodes known by handles. The root has handle 0, and a node that is detached
  stays in the store;
* `createElement`, `createText`, `appendElement`, `appendText` : new nodes;
* `appendChild`, `insertChild`, `detach`, `replaceWith`, `setText` : changes to the tree, which keep
  the two ends of every link together: a node is among the children of its parent and of no other;
* `descendants` : the nodes below a node in document order, found with a stack of nodes to visit;
* `subtree` : the tree at a node. It has texts for leaves, also where the store has nodes below a text.
-/

namespace Rubric

abbrev NodeId := Nat

/-- What a node is, its place in the tree left aside. -/
inductive NodeKind where
  | text (content : String)
  | element (tag : String) (attrs : Attrs)
deriving DecidableEq

/-- A node of the store with the links to its parent and children. -/
structure Entry where
  kind : NodeKind
  parent : Option NodeId := none
  children : List NodeId := []
deriving DecidableEq

/-- A store of nodes. -/
structure Document where
  entries : Array Entry
deriving DecidableEq

namespace Document

def empty : Document := ⟨#[{ kind := .element Node.rootTag [] }]⟩

def root : NodeId := 0

/-! ## Reading -/

def get? (d : Document) (n : NodeId) : Option Entry := d.entries[n]?

def size (d : Document) : Nat := d.entries.size

def children (d : Document) (n : NodeId) : List NodeId := (d.get? n).elim [] Entry.children

def parent? (d : Document) (n : NodeId) : Option NodeId := (d.get? n).bind Entry.parent

def text? (d : Document) (n : NodeId) : Option String :=
  match (d.get? n).map Entry.kind with
  | some (.text s) => some s
  | _ => none

def tag? (d : Document) (n : NodeId) : Option String :=
  match (d.get? n).map Entry.kind with
  | some (.element tag _) => some tag
  | _ => none

def attrs? (d : Document) (n : NodeId) : Option Attrs :=
  match (d.get? n).map Entry.kind with
  | some (.element _ attrs) => some attrs
  | _ => none

def attr? (d : Document) (n : NodeId) (name : String) : Option String :=
  (d.attrs? n).bind (·.get? name)

/-- Whether a class is in the class list of an element. Text has no class list. -/
def hasClass (d : Document) (n : NodeId) (name : String) : Bool :=
  ((d.attrs? n).getD []).hasClass name

def index? (d : Document) (n : NodeId) : Option Nat :=
  (d.parent? n).bind fun p => (d.children p).idxOf? n

/-! ## New nodes -/

/-- A new node, not yet in the tree, and its handle. -/
def create (d : Document) (kind : NodeKind) : NodeId × Document :=
  (d.size, ⟨d.entries.push { kind }⟩)

def createElement (d : Document) (tag : String) : NodeId × Document := d.create (.element tag [])

def createText (d : Document) (s : String) : NodeId × Document := d.create (.text s)

/-! ## Changes to one node -/

def modify (d : Document) (n : NodeId) (f : Entry → Entry) : Document := ⟨d.entries.modify n f⟩

/-- Changes the attributes of an element. Text has none. -/
def modifyAttrs (d : Document) (n : NodeId) (f : Attrs → Attrs) : Document :=
  d.modify n fun e =>
    match e.kind with
    | .element tag attrs => { e with kind := .element tag (f attrs) }
    | .text _ => e

def setAttr (d : Document) (n : NodeId) (name value : String) : Document :=
  d.modifyAttrs n (·.set name value)

def removeAttr (d : Document) (n : NodeId) (name : String) : Document :=
  d.modifyAttrs n (·.erase name)

def addClass (d : Document) (n : NodeId) (name : String) : Document :=
  d.modifyAttrs n (·.addClass name)

def addStyle (d : Document) (n : NodeId) (declaration : String) : Document :=
  d.modifyAttrs n (·.addStyle declaration)

/-! ## Changes to the tree -/

/-- Takes a node out of the tree, with everything below it. -/
def detach (d : Document) (n : NodeId) : Document :=
  match d.parent? n with
  | none => d
  | some p =>
    (d.modify n fun e => { e with parent := none }).modify p fun e =>
      { e with children := e.children.filter (· != n) }

/-- Links two nodes of the store: the second becomes the child of the first at a place. -/
def link (d : Document) (p : NodeId) (index : Nat) (n : NodeId) : Document :=
  if p < d.size ∧ n < d.size then
    (d.modify p fun e =>
      { e with children := e.children.insertIdx (min index e.children.length) n }).modify n
        fun e => { e with parent := some p }
  else d

/-- Moves a node to a place among the children of another. It is taken out of the tree first. -/
def insertChild (d : Document) (p : NodeId) (index : Nat) (n : NodeId) : Document :=
  (d.detach n).link p index n

def appendChild (d : Document) (p n : NodeId) : Document :=
  d.insertChild p (d.children p).length n

def appendElement (d : Document) (p : NodeId) (tag : String) : NodeId × Document :=
  let (n, d) := d.createElement tag
  (n, d.appendChild p n)

/-- Text at the end of a node. A text node that stands last takes it up. -/
def appendText (d : Document) (p : NodeId) (s : String) : NodeId × Document :=
  match (d.children p).getLast? with
  | some last =>
    match d.text? last with
    | some t => (last, d.modify last fun e => { e with kind := .text (t ++ s) })
    | none =>
      let (n, d) := d.createText s
      (n, d.appendChild p n)
  | none =>
    let (n, d) := d.createText s
    (n, d.appendChild p n)

/-- Inserts nodes one after the other, the first at a place among the children of a node. -/
def insertAll (d : Document) (p : NodeId) : Nat → List NodeId → Document
  | _, [] => d
  | index, n :: rest => (d.insertChild p index n).insertAll p (index + 1) rest

/-- Puts nodes where another one was. A node that is not in a tree is left alone. -/
def replaceWith (d : Document) (n : NodeId) (replacements : List NodeId) : Document :=
  match d.parent? n, d.index? n with
  | some p, some index => (d.detach n).insertAll p index replacements
  | _, _ => d

/-- Replaces the text of a text node, or all children of an element by one text node. -/
def setText (d : Document) (n : NodeId) (s : String) : Document :=
  match d.text? n with
  | some _ => d.modify n fun e => { e with kind := .text s }
  | none =>
    let d := (d.children n).foldl detach d
    let (t, d) := d.createText s
    d.appendChild n t

/-! ## Traversal -/

/-- Visits the nodes of a stack and everything below them. The first argument bounds the number of
nodes. -/
def visit (d : Document) : Nat → List NodeId → List NodeId
  | 0, _ => []
  | _, [] => []
  | k + 1, n :: stack => n :: d.visit k (d.children n ++ stack)

/-- The nodes below a node, in document order. -/
def descendants (d : Document) (n : NodeId) : List NodeId := d.visit d.size (d.children n)

def textContent (d : Document) (n : NodeId) : String :=
  match d.text? n with
  | some s => s
  | none => String.join ((d.descendants n).filterMap d.text?)

/-- The tree at a node, cut off so many levels further down. A text is a leaf of it: nodes that have been put
below a text are left out. -/
def subtreeTo (d : Document) : Nat → NodeId → Node
  | k, n =>
    match d.get? n with
    | none => .text ""
    | some e =>
      match e.kind with
      | .text s => .text s
      | .element tag attrs =>
        .element tag attrs
          (match k with
            | 0 => []
            | k + 1 => e.children.map (d.subtreeTo k))

/-- The tree at a node, without what hangs below a text. -/
def subtree (d : Document) (n : NodeId) : Node := d.subtreeTo d.size n

def html (d : Document) (n : NodeId) : String := (d.subtree n).html

/-! ## Documents from trees -/

mutual
/-- Adds a tree below a node; handles are given out in document order. -/
def addTree (d : Document) (p : NodeId) : Node → Document
  | .text s =>
    let (n, d) := d.createText s
    d.appendChild p n
  | .element tag attrs children =>
    let (n, d) := d.create (.element tag attrs)
    (d.appendChild p n).addTrees n children

def addTrees (d : Document) (p : NodeId) : List Node → Document
  | [] => d
  | n :: rest => (d.addTree p n).addTrees p rest
end

def ofNodes (nodes : List Node) : Document := empty.addTrees root nodes

end Document
end Rubric
