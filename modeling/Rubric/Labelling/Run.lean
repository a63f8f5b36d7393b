import Rubric.Labelling.Walk

/-!
# Labelling a document

* `Labelling` : settings, and how generated text becomes nodes;
* `Labelling.draft` : the labelled draft of a document, or the error in the settings;
* `Labelling.apply` : the labelled document. Where the run was stopped the document is left as far as it
  had come.
-/

namespace Rubric

/-- How to label documents. -/
structure Labelling where
  settings : Settings := {}
  typeset : Draft.Typesetting := Draft.plainText

/-- What a run makes besides the document. -/
structure LabelReport where
  stylesheet : Stylesheet
  warnings : List Warning
deriving DecidableEq

/-- The outcome of a run. -/
structure Labelled where
  document : Node
  result : Except LabelError LabelReport
  /-- The templates that were read. -/
  context : Template.Context

/-- The outcome of a walk, before the references are filled in. -/
structure LabelledDraft where
  draft : Draft
  state : State

def State.result (s : State) : Except LabelError LabelReport :=
  match s.failure with
  | some e => .error e
  | none => .ok ⟨s.stylesheet, s.warnings⟩

namespace Labelling

def begin (c : Template.Context) (draft : Draft) : State :=
  { context := c, refs := RefTable.awaitAll {} draft.refKeys }

/-- Labels a draft of a document. Settings that cannot be read leave it as it is. -/
def draft (l : Labelling) (c : Template.Context) (document : Draft) : LabelledDraft :=
  match Defaults.ofSettings c l.settings with
  | (.error e, c) => ⟨document, { context := c, failure := some e }⟩
  | (.ok d, c) =>
    let marked := document.markRefs none
    let (draft, state) := marked.walk d (begin c marked)
    ⟨draft, state⟩

/-- Labels a document. -/
def apply (l : Labelling) (c : Template.Context) (document : Node) : Labelled :=
  let run := l.draft c (.ofNode document)
  { document := (run.draft.toNode l.typeset run.state.refs)
    result := run.state.result
    context := run.state.context }

end Labelling
end Rubric
