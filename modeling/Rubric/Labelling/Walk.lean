import Rubric.Labelling.State

/-!
# The walk over a document

The walk goes through a draft in document order. It numbers headings and list items, takes off their
directives, and fills in the references to every element it comes to. Once it is stopped it changes
nothing more.

* `Walk.enterHeading` : a heading. What is inside it is left alone;
* `Walk.enterList`, `Walk.enterItem` : a list, and an item of a list that has a series;
* `Walk.enterElement` : any other element;
* `Draft.walk` : a node and everything below it.
-/

namespace Rubric
namespace Walk

/-- What becomes of an element. -/
structure Entered where
  attrs : Attrs
  label : Option String
  state : State

/-- Both directives of an element that may have them. -/
structure Directives where
  /-- The source of the label template. -/
  source : Option String
  /-- The element has no label. -/
  suppressed : Bool
  /-- The attributes that are left. -/
  attrs : Attrs
  warnings : List Warning

def takeBoth (tag : String) (attrs : Attrs) : Directives :=
  let label := Directive.label.take tag attrs
  let noLabel := Directive.noLabel.take tag label.attrs
  { source := label.value
    suppressed := noLabel.value.isSome
    attrs := noLabel.attrs
    warnings := label.warnings ++ noLabel.warnings }

/-- The warning for a template that is dropped because the element has no label. -/
def Directives.conflicts (ds : Directives) (tag : String) : List Warning :=
  if ds.source.isSome then [conflict tag] else []

/-! ## Headings and other elements -/

/-- A heading ends the deeper sections, and gets the next number of its own. -/
def enterHeading (d : Defaults) (level : HeadingLevel) (tag : String) (attrs : Attrs) (s : State) :
    Entered :=
  let ds := takeBoth tag attrs
  let s := { s with scope := s.scope.closeBelow level }.warn ds.warnings
  if ds.suppressed then ⟨ds.attrs, none, (s.warn (ds.conflicts tag)).resolve ds.attrs⟩
  else
    match s.headingSeries d level ds.source with
    | (.error e, s) => ⟨ds.attrs, none, s.stop e⟩
    | (.ok none, s) => ⟨ds.attrs, none, s.resolve ds.attrs⟩
    | (.ok (some id), s) =>
      let s := s.increment id
      ⟨ds.attrs, some (s.scope.roster.text id), s.resolve ds.attrs⟩

/-- An element that nothing labels. It loses its directives, with a warning for each; only an item of
a list without labels may say that it has none. -/
def enterElement (tag : String) (attrs : Attrs) (s : State) : Entered :=
  let (attrs, warnings) :=
    if tag = "li" then
      let (attrs, warnings) := Directive.label.discard tag attrs
      let noLabel := Directive.noLabel.take tag attrs
      (noLabel.attrs, warnings ++ noLabel.warnings)
    else rejectDirectives tag attrs
  ⟨attrs, none, (s.warn warnings).resolve attrs⟩

/-! ## Lists -/

/-- The list whose items are walked over. -/
structure ListState where
  /-- The series of the items that come next. -/
  series : SeriesId
  container : ContainerState := {}
  /-- The classes that its labels have given the list. -/
  classes : List String := []
deriving DecidableEq

/-- A list may have a template and no other directive. It is walked over with a series if it has a
template, or the series of its kind around it has one for the next level. -/
def enterList (d : Defaults) (kind : ElementKind) (tag : String) (attrs : Attrs) (s : State) :
    Attrs × Option ListState × State :=
  let label := Directive.label.take tag attrs
  let (attrs, warnings) := Directive.noLabel.discard tag label.attrs
  let s := s.warn (label.warnings ++ warnings)
  match s.templateOfList d kind tag label.value with
  | (.error e, s) => (attrs, none, s.stop e)
  | (.ok none, s) =>
    let entered := enterElement tag attrs s
    (entered.attrs, none, entered.state)
  | (.ok (some template), s) =>
    let (id, s) := s.start kind template d.styled
    (attrs, some { series := id }, s.resolve attrs)

/-- Draws the label of the next item of a list. -/
def drawItem (d : Defaults) (l : ListState) (attrs : Attrs) (s : State) : Entered × ListState :=
  let s := s.increment l.series
  let (drawing, container) := s.scope.roster.drawItem d.styled l.series l.container attrs
  (⟨drawing.attrs, drawing.label, (s.addRules drawing.rules).resolve drawing.attrs⟩,
    { l with container, classes := l.classes ++ drawing.containerClasses })

/-- An item of a list that has a series. A directive puts another series in its place for this item
and those that follow. An item without a label is not counted. -/
def enterItem (d : Defaults) (kind : ElementKind) (l : ListState) (tag : String) (attrs : Attrs)
    (s : State) : Entered × ListState :=
  let ds := takeBoth tag attrs
  let s := s.warn ds.warnings
  if ds.suppressed then
    let attrs := ds.attrs.addClass Css.noLabelClass
    (⟨attrs, none, (s.warn (ds.conflicts tag)).resolve attrs⟩, l)
  else
    match s.readDirective tag ds.source with
    | (.error e, s) => (⟨ds.attrs, none, s.stop e⟩, l)
    | (.ok none, s) => drawItem d l ds.attrs s
    | (.ok (some template), s) =>
      let (id, s) := s.replace l.series kind template d.styled
      drawItem d { l with series := id } ds.attrs s

/-- The end of an item: what was started inside it goes out of scope. -/
def leaveItem (l : ListState) (s : State) : State :=
  if s.isStopped then s else s.endBelow l.series

/-- The end of a list: its series goes out of scope. -/
def leaveList (l : ListState) (s : State) : State :=
  if s.isStopped then s else { s with scope := s.scope.remove l.series }

end Walk

namespace Draft
open Walk

mutual
/-- Walks over a node and everything below it. -/
def walk (d : Defaults) : Draft → State → Draft × State
  | element tag attrs label children, s =>
    if s.isStopped then (element tag attrs label children, s)
    else
      match ElementKind.ofTag? tag with
      | some (.heading level) =>
        let e := enterHeading d level tag attrs s
        (element tag e.attrs e.label children, e.state)
      | some kind =>
        match enterList d kind tag attrs s with
        | (attrs, none, s) =>
          let (children, s) := walkAll d children s
          (element tag attrs label children, s)
        | (attrs, some l, s) =>
          let (children, l, s) := walkItems d kind children l s
          (element tag (l.classes.foldl Attrs.addClass attrs) label children, leaveList l s)
      | none =>
        let e := enterElement tag attrs s
        let (children, s) := walkAll d children e.state
        (element tag e.attrs label children, s)
  | other, s => (other, s)

def walkAll (d : Defaults) : List Draft → State → List Draft × State
  | [], s => ([], s)
  | n :: rest, s =>
    let (n, s) := walk d n s
    let (rest, s) := walkAll d rest s
    (n :: rest, s)

/-- Walks over the children of a list that has a series. -/
def walkItems (d : Defaults) (kind : ElementKind) :
    List Draft → ListState → State → List Draft × ListState × State
  | [], l, s => ([], l, s)
  | element tag attrs label content :: rest, l, s =>
    if s.isStopped then (element tag attrs label content :: rest, l, s)
    else if tag = "li" then
      let (e, l) := enterItem d kind l tag attrs s
      let (content, s) := walkAll d content e.state
      let (rest, l', s) := walkItems d kind rest l (leaveItem l s)
      (element tag e.attrs e.label content :: rest, l', s)
    else
      let (n, s) := walk d (element tag attrs label content) s
      let (rest, l, s) := walkItems d kind rest l s
      (n :: rest, l, s)
  | n :: rest, l, s =>
    let (rest, l, s) := walkItems d kind rest l s
    (n :: rest, l, s)
end

theorem walk_text (d : Defaults) (content : String) (s : State) :
    walk d (text content) s = (text content, s) := by
  rw [walk]; intros; contradiction

theorem walk_split (d : Defaults) (target : String) (pieces : List Piece) (s : State) :
    walk d (split target pieces) s = (split target pieces, s) := by
  rw [walk]; intros; contradiction

end Draft
end Rubric
