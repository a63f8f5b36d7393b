/-!
# Settings

* `Mode` : how list labels are made;
* `Settings` : the templates that apply where no directive says otherwise.
-/

namespace Rubric

/-- How list labels are made. -/
inductive Mode where
  /-- The text of every label goes into the document. -/
  | text
  /-- A stylesheet draws the labels of list items with counters. Headings have text. -/
  | css
deriving DecidableEq

def Mode.name : Mode → String
  | text => "text"
  | css => "css"

def Mode.ofName? (s : String) : Option Mode :=
  if s = "text" then some .text else if s = "css" then some .css else none

@[simp] theorem Mode.ofName?_name (m : Mode) : ofName? m.name = some m := by
  cases m <;> rfl

/-- The default templates and the mode of a run. -/
structure Settings where
  /-- The template of headings, from the first labelled level on. -/
  headingLabels : Option String := none
  /-- The first level whose headings are labelled. -/
  headingLevel : Nat := 1
  /-- The template of ordered lists. -/
  orderedLabels : Option String := none
  /-- The template of unordered lists. -/
  unorderedLabels : Option String := none
  mode : Mode := .text
deriving DecidableEq

end Rubric
