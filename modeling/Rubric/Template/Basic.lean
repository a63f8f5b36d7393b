import Rubric.Counter.Style
import Rubric.Selector

/-!
# Label templates

* `Segment` : what one level of nesting shows: literal text around a numeral, with the label of an
  outer series in front of it or not;
* `Template` : the segments of the levels from the outermost down, of which the last may repeat
  without end;
* `Template.child?` : the template of the next level down.
-/

namespace Rubric

/-- The label of one level of nesting. -/
structure Segment where
  /-- Literal text in front. -/
  before : String := ""
  /-- Literal text between an outer label and the numeral. -/
  separator : String := ""
  /-- Literal text behind. -/
  after : String := ""
  /-- The series whose label goes in front of the numeral. -/
  parent : Option Selector := none
  /-- How counts are written; none for literal text only. -/
  style : Option CounterStyle := none
deriving DecidableEq

/-- A segment shows a number, not only literal text. -/
def Segment.isNumbered (s : Segment) : Bool := s.style.isSome

/-- The segments of a label from the outermost level down. -/
structure Template where
  segment : Segment
  deeper : List Segment := []
  /-- The last segment serves all levels further down. -/
  repeats : Bool := false
deriving DecidableEq

namespace Template

/-- The template of the next level down. -/
def child? (t : Template) : Option Template :=
  match t.deeper with
  | s :: rest => some { t with segment := s, deeper := rest }
  | [] => if t.repeats then some t else none

def isNumbered (t : Template) : Bool := t.segment.isNumbered

def segments (t : Template) : List Segment := t.segment :: t.deeper

def cons (s : Segment) (t : Template) : Template := ⟨s, t.segments, t.repeats⟩

@[simp] theorem segments_cons (s : Segment) (t : Template) :
    (cons s t).segments = s :: t.segments := rfl

end Template
end Rubric
