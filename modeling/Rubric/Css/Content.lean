/-!
# Content expressions

* `Css.quote s` : a text as one CSS string; the empty text has none;
* `ContentPart` : a piece of literal text, or the value of a counter;
* `Content.toText` : the parts of a `content` value, separated by blanks.
-/

namespace Rubric
namespace Css

/-- The class and counter name of the series with a key. -/
def styleName (key : Nat) : String := "la-label" ++ toString key

def escapeChar (c : Char) : List Char :=
  if c = '\x5c' || c = '\x22' then ['\x5c', c] else [c]

/-- A text as a CSS string. Nothing stands for the empty text. -/
def quote (s : String) : String :=
  if s.isEmpty then ""
  else String.ofList ('\x22' :: s.toList.flatMap escapeChar ++ ['\x22'])

end Css

/-- A part of a `content` value. -/
inductive ContentPart where
  /-- Literal text, not empty. -/
  | text (s : String)
  /-- The counter of a series in a counter style. -/
  | counter (key : Nat) (style : String)
deriving DecidableEq

def ContentPart.toText : ContentPart → String
  | text s => Css.quote s
  | counter key style => "counter(" ++ Css.styleName key ++ "," ++ style ++ ")"

abbrev Content := List ContentPart

namespace Content

def ofText (s : String) : Content := if s.isEmpty then [] else [.text s]

def toText (c : Content) : String := String.intercalate " " (c.map ContentPart.toText)

end Content
end Rubric
