import Rubric.Template.Error

/-!
# Errors that stop a run

* `TemplateOrigin` : where a template stands;
* `LabelError` : a template that cannot be read, or a heading level that there is not.
-/

namespace Rubric

/-- Where a template stands. -/
inductive TemplateOrigin where
  | headingSetting
  | orderedSetting
  | unorderedSetting
  /-- The label directive of an element with a tag. -/
  | directive (tag : String)
deriving DecidableEq

def TemplateOrigin.text : TemplateOrigin → String
  | headingSetting => "h_labels setting"
  | orderedSetting => "ol_labels setting"
  | unorderedSetting => "ul_labels setting"
  | directive tag => "-label directive on <" ++ tag ++ ">"

/-- A reason why a run stops. -/
inductive LabelError where
  | template (origin : TemplateOrigin) (source : TemplateError)
  | headingLevel (level : Nat)
deriving DecidableEq

/-- The message of an error, its cause left aside. -/
def LabelError.message : LabelError → String
  | template origin _ => "invalid " ++ origin.text ++ " label template"
  | headingLevel level => "h_level must be between 1 and 6, got " ++ toString level

def LabelError.cause? : LabelError → Option String
  | template _ source => some source.message
  | headingLevel _ => none

end Rubric
