import Rubric.Css.Content
import Rubric.Template.Context

/-!
# Numbering series

* `Series` : a running count with the template that shows it, and the outer series it belongs to;
* `Roster` : all series of a run, with the keys that equivalent ones share;
* `Roster.create`, `increment`, `releaseChildren` : a new series, the next number of one, and the
  series that hang below one;
* `Roster.bareText`, `text` : the label of a series, without and with the affixes of its template;
* `Roster.contentCore`, `content` : the same as a value for `content` in a stylesheet.
-/

namespace Rubric

abbrev SeriesId := Nat

/-- A numbering series. -/
structure Series where
  kind : ElementKind
  template : Template.Instance
  /-- The series whose label goes in front. -/
  parent : Option SeriesId
  /-- A stylesheet draws the labels, by the counter that is named after the key. -/
  styled : Bool
  /-- Equivalent series have the same key. -/
  key : Nat
  /-- The number of elements counted so far. -/
  count : Nat := 0
  /-- The series that were started below this one, oldest first. -/
  children : List SeriesId := []
deriving DecidableEq

namespace Series

def segment (s : Series) : Segment := s.template.template.segment

/-- The series shows numbers, not only literal text. -/
def isNumbered (s : Series) : Bool := s.segment.isNumbered

/-- The class and counter name of a series that a stylesheet draws. -/
def styleName? (s : Series) : Option String := if s.styled then some (Css.styleName s.key) else none

end Series

/-- What the parent of a series adds to its key. -/
inductive ParentIdentity where
  | none
  | shared (key : Nat)
  /-- A parent that no stylesheet draws goes into the label as text. -/
  | text (label : String)
deriving DecidableEq

/-- What makes series equivalent. -/
structure SeriesKey where
  place : Nat × Nat
  parent : ParentIdentity
  styled : Bool
deriving DecidableEq

/-- All series of a run. Keys are numbered in order of first use. -/
structure Roster where
  series : Array Series := #[]
  keys : List SeriesKey := []
deriving DecidableEq

namespace Roster

def get? (r : Roster) (id : SeriesId) : Option Series := r.series[id]?

/-! ## Labels -/

/-- The label of a series without the affixes of its template: its own number, behind the label of
its parent and the separator if the parent has one. -/
def bareText (r : Roster) (id : SeriesId) : String :=
  match r.get? id with
  | none => ""
  | some s =>
    match s.segment.style with
    | none => ""
    | some style =>
      let own := style.format s.count
      match s.parent with
      | none => own
      | some p =>
        if _ : p < id then
          let outer := r.bareText p
          if outer.isEmpty then own else outer ++ s.segment.separator ++ own
        else own
termination_by id

def text (r : Roster) (id : SeriesId) : String :=
  match r.get? id with
  | none => ""
  | some s => s.segment.before ++ r.bareText id ++ s.segment.after

/-- The label of a series without affixes, as content. A series that no stylesheet draws goes in as
the text that it shows at present. -/
def contentCore (r : Roster) (id : SeriesId) : Content :=
  match r.get? id with
  | none => []
  | some s =>
    match s.segment.style with
    | none => []
    | some style =>
      if !s.styled then Content.ofText (r.bareText id)
      else
        let own := ContentPart.counter s.key style.name
        match s.parent with
        | none => [own]
        | some p =>
          if _ : p < id then
            let outer := r.contentCore p
            if outer.isEmpty then [own] else outer ++ Content.ofText s.segment.separator ++ [own]
          else [own]
termination_by id

def content (r : Roster) (id : SeriesId) : Content :=
  match r.get? id with
  | none => []
  | some s =>
    Content.ofText s.segment.before ++ r.contentCore id ++ Content.ofText s.segment.after

/-! ## Changes -/

/-- What a parent adds to the key of a series below it. -/
def parentIdentity (r : Roster) (parent : Option SeriesId) (styled : Bool) : ParentIdentity :=
  match parent with
  | none => .none
  | some p =>
    match r.get? p with
    | none => .none
    | some s => if styled && !s.styled then .text (r.bareText p) else .shared s.key

/-- The number of a key, which joins the others if it is new. -/
def number (r : Roster) (key : SeriesKey) : Nat × Roster :=
  match r.keys.idxOf? key with
  | some n => (n, r)
  | none => (r.keys.length, { r with keys := r.keys ++ [key] })

def addChild (r : Roster) (parent id : SeriesId) : Roster :=
  { r with series := r.series.modify parent fun s => { s with children := s.children ++ [id] } }

/-- Starts a series at zero. -/
def create (r : Roster) (kind : ElementKind) (template : Template.Instance)
    (parent : Option SeriesId) (styled : Bool) : SeriesId × Roster :=
  let (key, r) := r.number ⟨template.place, r.parentIdentity parent styled, styled⟩
  let id := r.series.size
  let r := { r with series := r.series.push { kind, template, parent, styled, key } }
  (id, parent.elim r (r.addChild · id))

def increment (r : Roster) (id : SeriesId) : Roster :=
  { r with series := r.series.modify id fun s => { s with count := s.count + 1 } }

def children (r : Roster) (id : SeriesId) : List SeriesId := (r.get? id).elim [] Series.children

def clearChildren (r : Roster) (id : SeriesId) : Roster :=
  { r with series := r.series.modify id fun s => { s with children := [] } }

/-- The series below another one, which are forgotten. -/
def releaseChildren (r : Roster) (id : SeriesId) : List SeriesId × Roster :=
  (r.children id, r.clearChildren id)

def links (r : Roster) : Nat := (r.series.toList.flatMap Series.children).length

theorem links_clearChildren (r : Roster) (id : SeriesId) :
    (r.clearChildren id).links + (r.children id).length = r.links := by
  simp only [links, clearChildren, children, get?]
  rw [Array.toList_modify, ← Array.getElem?_toList]
  generalize r.series.toList = l
  induction l generalizing id with
  | nil => simp
  | cons s rest ih =>
    cases id with
    | zero => simp [List.modify_cons]; omega
    | succ n => simpa [List.modify_cons, Nat.add_assoc] using ih n

end Roster
end Rubric
