import Rubric.Tree.Attrs

/-!
# Directives

* `Directive` : the attributes that set or suppress a label, each in two forms;
* `Directive.take` : removes a directive from an element, in every form;
* `Warning` : the problems with directives, and their wording;
* `rejectDirectives` : removes both directives from an element that cannot have any.
-/

namespace Rubric

/-- An instruction in the attributes of an element. -/
inductive Directive where
  /-- The label template of the element. -/
  | label
  /-- The element has no label. -/
  | noLabel
deriving DecidableEq

namespace Directive

/-- The form that wins. -/
def name : Directive → String
  | label => "-label"
  | noLabel => "-no-label"

/-- The other form. -/
def longName : Directive → String
  | label => "md-label"
  | noLabel => "md-no-label"

end Directive

/-- A problem that does not stop the run. -/
inductive Warning where
  /-- Both forms of a directive are on one element. -/
  | duplicate (tag kept ignored : String)
  /-- The element cannot have the directive. -/
  | misplaced (tag directive : String)
  /-- The element has a template and shall have no label. -/
  | conflicting (tag directive : String)
deriving DecidableEq

/-- The wording of a warning. -/
def Warning.text : Warning → String
  | duplicate tag kept ignored =>
    "<" ++ tag ++ "> has both " ++ kept ++ " and " ++ ignored ++ "; using " ++ kept
  | misplaced tag directive =>
    "<" ++ tag ++ "> cannot take a " ++ directive ++ " directive; ignoring it"
  | conflicting tag directive =>
    "<" ++ tag ++ "> has both a label template and " ++ directive ++ "; leaving it unlabelled"

/-- The outcome of taking a directive off an element. -/
structure Taken where
  /-- The value of the form that counts. -/
  value : Option String
  /-- The attributes that are left. -/
  attrs : Attrs
  warnings : List Warning
deriving DecidableEq

namespace Directive

/-- Takes a directive off an element with the given tag. The short form wins over the long one. -/
def take (d : Directive) (tag : String) (attrs : Attrs) : Taken where
  value := attrs.get? d.name <|> attrs.get? d.longName
  attrs := (attrs.erase d.name).erase d.longName
  warnings :=
    if attrs.has d.name && attrs.has d.longName then [.duplicate tag d.name d.longName] else []

def misplaced (d : Directive) (tag : String) : Warning := .misplaced tag d.name

def discard (d : Directive) (tag : String) (attrs : Attrs) : Attrs × List Warning :=
  let taken := d.take tag attrs
  (taken.attrs, taken.warnings ++ if taken.value.isSome then [d.misplaced tag] else [])

@[simp] theorem value_take (d : Directive) (tag : String) (attrs : Attrs) :
    (d.take tag attrs).value = (attrs.get? d.name <|> attrs.get? d.longName) := rfl

@[simp] theorem get?_name_take (d : Directive) (tag : String) (attrs : Attrs) :
    (d.take tag attrs).attrs.get? d.name = none := by
  cases d <;> simp [take, Attrs.get?_erase_of_ne, name, longName]

@[simp] theorem get?_longName_take (d : Directive) (tag : String) (attrs : Attrs) :
    (d.take tag attrs).attrs.get? d.longName = none := by
  simp [take]

end Directive

/-- Takes both directives off an element that cannot have any. -/
def rejectDirectives (tag : String) (attrs : Attrs) : Attrs × List Warning :=
  let (attrs, warnings) := Directive.label.discard tag attrs
  let (attrs, more) := Directive.noLabel.discard tag attrs
  (attrs, warnings ++ more)

/-- The warning for a template on an element that shall have no label. -/
def conflict (tag : String) : Warning := .conflicting tag Directive.noLabel.name

end Rubric
