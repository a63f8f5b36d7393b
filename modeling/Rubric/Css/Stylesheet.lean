import Rubric.Css.Content

/-!
# Stylesheets

* `Rule` : the rules that draw list labels with counters;
* `Stylesheet.add` : adds a rule unless one with the same text is there;
* `Stylesheet.toText` : the rules, one on each line.
-/

namespace Rubric

namespace Css

/-- The class of containers whose items are labelled. -/
def labelledClass : String := "la-labelled"

def labelClass : String := "la-label"

/-- The class of items without a label. -/
def noLabelClass : String := "la-no-label"

def refClass : String := "la-ref"

/-- The items in containers of one class that have a label: all of them, or those of a class. -/
def items (container : Nat) (item : Option Nat) : String :=
  "." ++ styleName container ++ ">li" ++ item.elim "" ("." ++ styleName ·) ++
    ":not(." ++ noLabelClass ++ ")"

def counterReset (key : Nat) : String := "counter-reset:" ++ styleName key

end Css

/-- A rule of the stylesheet. Series are known by their keys. -/
inductive Rule where
  /-- No list markers in labelled containers. -/
  | hideMarkers
  /-- Elements of the class start its counter. -/
  | reset (key : Nat)
  /-- The items of a container count: in its own counter, or items of another class in that one. -/
  | increment (container : Nat) (item : Option Nat)
  /-- What is drawn before the items of a container, all of them or those of a class. -/
  | content (container : Nat) (item : Option Nat) (value : Content)
  /-- A rule in its written form. -/
  | verbatim (text : String)
deriving DecidableEq

namespace Rule

def block (selector declaration : String) : String :=
  selector ++ "\x7b" ++ declaration ++ ";\x7d"

def toText : Rule → String
  | hideMarkers => block ("." ++ Css.labelledClass ++ ">li") "list-style-type:none"
  | reset key => block ("." ++ Css.styleName key) (Css.counterReset key)
  | increment container item =>
    block (Css.items container item)
      ("counter-increment:" ++ Css.styleName (item.getD container))
  | content container item value =>
    block (Css.items container item ++ "::before") ("content:" ++ value.toText)
  | verbatim text => text

end Rule

/-- Rules in the order in which they were first added. -/
structure Stylesheet where
  rules : List Rule := []
deriving DecidableEq

namespace Stylesheet

/-- Adds a rule, unless it is there already. -/
def add (s : Stylesheet) (rule : Rule) : Stylesheet :=
  if s.rules.any fun r => r.toText == rule.toText then s else ⟨s.rules ++ [rule]⟩

def addAll (s : Stylesheet) (rules : List Rule) : Stylesheet := rules.foldl add s

def toText (s : Stylesheet) : String := String.join (s.rules.map fun r => r.toText ++ "\n")

end Stylesheet
end Rubric
