import Rubric.Template.Basic

/-!
# Writing templates

* `Template.toText` : the canonical source of a template, with every literal in double quotes and
  every style by its own name.
-/

namespace Rubric

/-- Text between double quotes, with every double quote inside it written twice. -/
def Template.quote (s : String) : String :=
  String.ofList
    ('\x22' :: s.toList.flatMap (fun c => if c = '\x22' then [c, c] else [c]) ++ ['\x22'])

namespace Segment

/-- The numeral of a segment with its marker and separator. -/
def numeralText (s : Segment) (style : CounterStyle) : String :=
  (match s.parent with
    | none => ""
    | some parent => parent.toText ++ Template.quote s.separator) ++
  style.name ++ (if s.after.isEmpty then "" else Template.quote s.after)

def toText (s : Segment) : String :=
  match s.style with
  | none => Template.quote s.before
  | some style =>
    (if s.before.isEmpty then "" else Template.quote s.before) ++ s.numeralText style

end Segment

/-- The canonical source of a template. -/
def Template.toText (t : Template) : String :=
  String.intercalate "," (t.segments.map Segment.toText) ++ if t.repeats then ",*" else ""

end Rubric
