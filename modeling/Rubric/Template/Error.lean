/-!
# Errors in templates

* `TemplateFault` : what is wrong, and where;
* `TemplateError` : a fault together with the source of the template, and its message.
-/

namespace Rubric

/-- What a malformed template should have had. -/
inductive Expectation where
  | templateAfterComma
  | commaOrEnd
  | closingQuote
deriving DecidableEq

def Expectation.text : Expectation → String
  | templateAfterComma => "a template after \",\""
  | commaOrEnd => "\",\" or end of template"
  | closingQuote => "a closing quote"

/-- What is wrong with a template. -/
inductive TemplateFault where
  /-- Something else was expected at the offset, where the fragment stands. -/
  | malformed (offset : Nat) (fragment : String) (expected : Expectation)
  /-- No counter style has the name at the offset. -/
  | unknownStyle (offset : Nat) (name : String)
deriving DecidableEq

/-- The number of characters before the place of the fault. -/
def TemplateFault.offset : TemplateFault → Nat
  | malformed offset .. | unknownStyle offset _ => offset

/-- A template that cannot be read. -/
structure TemplateError where
  /-- The source of the template. -/
  template : String
  fault : TemplateFault
deriving DecidableEq

def quoted (s : String) : String := "\"" ++ s ++ "\""

def TemplateError.message (e : TemplateError) : String :=
  match e.fault with
  | .malformed offset fragment expected =>
    "syntax error in label template " ++ quoted e.template ++ " at offset " ++ toString offset ++
      ": expected " ++ expected.text ++ ", found " ++ quoted fragment
  | .unknownStyle offset name =>
    "unknown counter style " ++ quoted name ++ " at offset " ++ toString offset ++
      " in label template " ++ quoted e.template

end Rubric
