import Rubric.Template.Parser

/-!
# Templates in use

* `Template.Context` : the sources read so far, which number themselves in order of first use;
* `Template.Instance` : a template together with its place: the number of its source and how many
  levels below the first it starts;
* `Context.parse` : reads a source. Equal sources give the same instance.
-/

namespace Rubric.Template

/-- A template and where it comes from. -/
structure Instance where
  template : Template
  /-- The number of the source. -/
  source : Nat
  /-- How many segments of the source lie above. -/
  depth : Nat
deriving DecidableEq

def Instance.place (i : Instance) : Nat × Nat := (i.source, i.depth)

/-- The instance for the next level down. A repeated template is its own. -/
def Instance.child? (i : Instance) : Option Instance :=
  i.template.child?.map fun t =>
    ⟨t, i.source, if i.template.deeper.isEmpty then i.depth else i.depth + 1⟩

/-- The sources of templates in order of first use. -/
structure Context where
  sources : List String := []
deriving DecidableEq

namespace Context

/-- The number of a source, which joins the others if it is new. -/
def number (c : Context) (source : String) : Nat × Context :=
  match c.sources.idxOf? source with
  | some n => (n, c)
  | none => (c.sources.length, ⟨c.sources ++ [source]⟩)

/-- Reads a source. Only sources that can be read are numbered. -/
def parse (c : Context) (source : String) : Except TemplateError Instance × Context :=
  match Template.parse source with
  | .error e => (.error e, c)
  | .ok t =>
    let (n, c) := c.number source
    (.ok ⟨t, n, 0⟩, c)

end Context
end Rubric.Template
