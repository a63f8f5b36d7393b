import Rubric.Css.Stylesheet
import Rubric.Series
import Rubric.Tree.Attrs

/-!
# Drawing labels

* `Drawing` : what a label adds to an element, to the list that holds it, and to the stylesheet;
* `ContainerState` : how a list has been styled so far;
* `Roster.drawText` : a label as text;
* `Roster.drawStyled` : a label by counters. Once the series of a list changes, its items have the
  class of their series, and rules for that class that outrank those of the list;
* `Roster.drawItem` : the label of a list item in either mode.
-/

namespace Rubric

/-- What a label adds. -/
structure Drawing where
  rules : List Rule
  /-- The classes of the list. -/
  containerClasses : List String
  /-- The attributes of the element. -/
  attrs : Attrs
  /-- The text in front of the content of the element. -/
  label : Option String

/-- How counters draw a list. -/
structure Styling where
  /-- The key of the first series. -/
  key : Nat
  /-- The series of the last item. -/
  current : SeriesId
  /-- The series has changed since the first item. -/
  switched : Bool
deriving DecidableEq

/-- How a list has been styled so far. -/
structure ContainerState where
  /-- The list has text labels. -/
  marked : Bool := false
  styling : Option Styling := none
deriving DecidableEq

namespace Roster

/-- A label as text. The first one hides the markers of the list. -/
def drawText (r : Roster) (id : SeriesId) (container : ContainerState) (attrs : Attrs) :
    Drawing × ContainerState :=
  ({ rules := if container.marked then [] else [.hideMarkers]
     containerClasses := if container.marked then [] else [Css.labelledClass]
     attrs := attrs
     label := some (r.text id) },
    { container with marked := true })

/-- A label by the counter of its series. -/
def drawStyled (r : Roster) (id : SeriesId) (s : Series) (container : ContainerState)
    (attrs : Attrs) : Drawing × ContainerState :=
  match container.styling with
  | none =>
    ({ rules :=
        [.hideMarkers] ++ (if s.isNumbered then [.reset s.key, .increment s.key none] else []) ++
          [.content s.key none (r.content id)]
       containerClasses := [Css.labelledClass, Css.styleName s.key]
       attrs := attrs
       label := none },
      { container with styling := some ⟨s.key, id, false⟩ })
  | some styling =>
    if styling.current = id then
      ({ rules := [.hideMarkers]
         containerClasses := []
         attrs := if styling.switched then attrs.addClass (Css.styleName s.key) else attrs
         label := none },
        container)
    else
      ({ rules :=
          [.hideMarkers] ++ (if s.isNumbered then [.increment styling.key (some s.key)] else []) ++
            [.content styling.key (some s.key) (r.content id)]
         containerClasses := []
         attrs := (attrs.addStyle (Css.counterReset s.key)).addClass (Css.styleName s.key)
         label := none },
        { container with styling := some ⟨styling.key, id, true⟩ })

/-- The label of a list item. Counters draw the series that are made for it, if the mode is theirs. -/
def drawItem (r : Roster) (styled : Bool) (id : SeriesId) (container : ContainerState)
    (attrs : Attrs) : Drawing × ContainerState :=
  match r.get? id with
  | some s =>
    if styled && s.styled then r.drawStyled id s container attrs
    else r.drawText id container attrs
  | none => r.drawText id container attrs

end Roster
end Rubric
