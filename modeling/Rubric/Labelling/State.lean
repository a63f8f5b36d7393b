import Rubric.Directive
import Rubric.Draft
import Rubric.Labelling.Drawing
import Rubric.Labelling.Error
import Rubric.Scope
import Rubric.Settings

/-!
# The state of a run

* `Defaults` : the settings with their templates read;
* `Defaults.ofSettings` : reads the settings. The level is checked first, then the templates of
  headings, ordered lists and unordered lists;
* `State` : what a run knows at a point of the document;
* `State.headingSeries`, `templateOfList` : the series of a heading, and the template of a list.
-/

namespace Rubric

/-- The settings of a run. -/
structure Defaults where
  level : HeadingLevel
  heading : Option Template.Instance
  ordered : Option Template.Instance
  unordered : Option Template.Instance
  /-- Counters draw the labels of list items. -/
  styled : Bool
deriving DecidableEq

/-- The template for lists of a kind, where no other list of the kind is around. -/
def Defaults.list (d : Defaults) : ElementKind → Option Template.Instance
  | .orderedList => d.ordered
  | .unorderedList => d.unordered
  | .heading _ => none

/-- What a run knows at a point of the document. -/
structure State where
  context : Template.Context
  scope : Scope := {}
  refs : RefTable := {}
  stylesheet : Stylesheet := {}
  warnings : List Warning := []
  /-- The error that stopped the run. -/
  failure : Option LabelError := none
deriving DecidableEq

/-! ## Reading templates -/

/-- Reads a template that may be absent. -/
def Template.Context.read (c : Template.Context) (origin : TemplateOrigin) :
    Option String → Except LabelError (Option Template.Instance) × Template.Context
  | none => (.ok none, c)
  | some source =>
    match c.parse source with
    | (.ok t, c) => (.ok (some t), c)
    | (.error e, c) => (.error (.template origin e), c)

namespace Defaults

/-- Reads the settings. -/
def ofSettings (c : Template.Context) (s : Settings) :
    Except LabelError Defaults × Template.Context :=
  match HeadingLevel.ofNat? s.headingLevel with
  | none => (.error (.headingLevel s.headingLevel), c)
  | some level =>
    match c.read .headingSetting s.headingLabels with
    | (.error e, c) => (.error e, c)
    | (.ok heading, c) =>
      match c.read .orderedSetting s.orderedLabels with
      | (.error e, c) => (.error e, c)
      | (.ok ordered, c) =>
        match c.read .unorderedSetting s.unorderedLabels with
        | (.error e, c) => (.error e, c)
        | (.ok unordered, c) =>
          (.ok { level, heading, ordered, unordered, styled := s.mode == .css }, c)

end Defaults

namespace State

/-! ## Changes -/

def isStopped (s : State) : Bool := s.failure.isSome

def stop (s : State) (e : LabelError) : State := { s with failure := some e }

def warn (s : State) (warnings : List Warning) : State :=
  { s with warnings := s.warnings ++ warnings }

def addRules (s : State) (rules : List Rule) : State :=
  { s with stylesheet := s.stylesheet.addAll rules }

def increment (s : State) (id : SeriesId) : State := { s with scope := s.scope.increment id }

/-- Ends every series below one. -/
def endBelow (s : State) (id : SeriesId) : State :=
  { s with scope := s.scope.endBelow id }

/-- Fills in the references to the element with these attributes, by the series in scope. -/
def resolve (s : State) (attrs : Attrs) : State :=
  match attrs.get? "id" with
  | none => s
  | some target => { s with refs := s.refs.resolve target s.scope.label? }

/-- Reads the label directive of an element. -/
def readDirective (s : State) (tag : String) (source : Option String) :
    Except LabelError (Option Template.Instance) × State :=
  let (result, context) := s.context.read (.directive tag) source
  (result, { s with context })

def create (s : State) (kind : ElementKind) (template : Template.Instance)
    (parent : Option SeriesId) (styled : Bool) : SeriesId × State :=
  let (id, scope) := s.scope.create kind template parent styled
  (id, { s with scope })

/-- Starts a series below the one that its template selects, and puts it innermost. -/
def start (s : State) (kind : ElementKind) (template : Template.Instance) (styled : Bool) :
    SeriesId × State :=
  let parent := template.template.segment.parent.bind s.scope.find?
  let (id, s) := s.create kind template parent styled
  (id, { s with scope := s.scope.push id })

/-- Starts a series in the place of another, below the same parent. -/
def replace (s : State) (old : SeriesId) (kind : ElementKind) (template : Template.Instance)
    (styled : Bool) : SeriesId × State :=
  let (id, s) := s.create kind template ((s.scope.roster.get? old).bind Series.parent) styled
  (id, { s with scope := s.scope.replace old id })

/-! ## Choice of templates -/

/-- The template of the next level below the innermost series of a kind. -/
def childTemplate? (s : State) (kind : ElementKind) : Option Template.Instance := do
  let outer ← s.scope.findKind? kind
  let series ← s.scope.roster.get? outer
  series.template.child?

/-- The template of a heading that starts a series: its directive, or the next level of the section
around it, or the default of the first labelled level. -/
def headingTemplate (s : State) (d : Defaults) (level : HeadingLevel)
    (directive : Option Template.Instance) : Option Template.Instance :=
  directive <|> (level.outer?.bind fun l => s.childTemplate? (.heading l)) <|>
    if level = d.level then d.heading else none

/-- The series of a heading. A directive replaces the series of its level. -/
def headingSeries (s : State) (d : Defaults) (level : HeadingLevel) (source : Option String) :
    Except LabelError (Option SeriesId) × State :=
  match s.readDirective level.tag source with
  | (.error e, s) => (.error e, s)
  | (.ok directive, s) =>
    match s.scope.findKind? (.heading level), directive with
    | some current, none => (.ok (some current), s)
    | some current, some template =>
      let (id, s) := s.replace current (.heading level) template false
      (.ok (some id), s)
    | none, directive =>
      match s.headingTemplate d level directive with
      | none => (.ok none, s)
      | some template =>
        let (id, s) := s.start (.heading level) template false
        (.ok (some id), s)

/-- The template of a list: its directive, or the next level below the list of its kind around it, or
the default where there is no such list. -/
def templateOfList (s : State) (d : Defaults) (kind : ElementKind) (tag : String)
    (source : Option String) : Except LabelError (Option Template.Instance) × State :=
  match s.readDirective tag source with
  | (.ok none, s) =>
    (.ok (if (s.scope.findKind? kind).isSome then s.childTemplate? kind else d.list kind), s)
  | result => result

end State
end Rubric
