import Rubric.Series

/-!
# Scopes

* `Scope` : the series that are in scope at a point of a document, innermost first, together with the
  roster of all series so far;
* `Scope.find?`, `findKind?` : the innermost series of a selector, and of a kind;
* `Scope.push`, `remove`, `replace` : the changes to the stack;
* `Scope.endBelow` : ends every series below one;
* `Scope.closeBelow` : ends the sections deeper than a level.
-/

namespace Rubric

/-- The series in scope. -/
structure Scope where
  roster : Roster := {}
  /-- Innermost first. -/
  stack : List SeriesId := []
deriving DecidableEq

namespace Scope

/-! ## Look-up -/

/-- Whether a selector can choose a series. -/
def selects (s : Scope) (selector : Selector) (id : SeriesId) : Bool :=
  (s.roster.get? id).any fun series =>
    selector.matchesKind series.kind && (!selector.numberedOnly || series.isNumbered)

def find? (s : Scope) (selector : Selector) : Option SeriesId := s.stack.find? (s.selects selector)

def findKind? (s : Scope) (kind : ElementKind) : Option SeriesId :=
  s.stack.find? fun id => (s.roster.get? id).any (·.kind == kind)

/-- The label that a reference with a selector shows. -/
def label? (s : Scope) (selector : Selector) : Option String :=
  (s.find? selector).map s.roster.bareText

/-! ## Changes -/

def push (s : Scope) (id : SeriesId) : Scope := { s with stack := id :: s.stack }

def remove (s : Scope) (id : SeriesId) : Scope := { s with stack := s.stack.filter (· != id) }

/-- Starts a series that hangs below another or stands alone. It is not in scope yet. -/
def create (s : Scope) (kind : ElementKind) (template : Template.Instance)
    (parent : Option SeriesId) (styled : Bool) : SeriesId × Scope :=
  let (id, roster) := s.roster.create kind template parent styled
  (id, { s with roster })

def increment (s : Scope) (id : SeriesId) : Scope :=
  { s with roster := s.roster.increment id }

def forget (s : Scope) (id : SeriesId) : Scope := { s with roster := s.roster.clearChildren id }

/-- Takes series out of scope, with all that hang below them. Links to a series that ends are
forgotten. -/
def evict (s : Scope) : List SeriesId → Scope
  | [] => s
  | id :: rest => ((s.remove id).forget id).evict (s.roster.children id ++ rest)
termination_by ids => 2 * s.roster.links + ids.length
decreasing_by
  have := s.roster.links_clearChildren id
  simp only [remove, forget, List.length_append, List.length_cons]
  omega

/-- Takes every series below another one out of scope. -/
def endBelow (s : Scope) (id : SeriesId) : Scope :=
  (s.forget id).evict (s.roster.children id)

/-- Puts a series in the place of another and ends what was built on the other. A series that has
left the scope is replaced innermost. -/
def replace (s : Scope) (old new : SeriesId) : Scope :=
  let stack :=
    if s.stack.contains old then s.stack.map fun id => if id = old then new else id
    else new :: s.stack
  { s with stack }.endBelow old

/-- Whether a series numbers headings deeper than a level. -/
def isDeeper (s : Scope) (level : HeadingLevel) (id : SeriesId) : Bool :=
  (s.roster.get? id).any fun series =>
    match series.kind with
    | .heading l => level.number < l.number
    | _ => false

/-- Ends every section deeper than a level, with all that hangs below it. -/
def closeBelow (s : Scope) (level : HeadingLevel) : Scope :=
  (s.stack.filter (s.isDeeper level)).foldl (fun s id => (s.remove id).endBelow id) s

end Scope
end Rubric
