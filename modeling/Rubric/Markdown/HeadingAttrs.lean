import Rubric.Text.Blank
import Rubric.Tree.Attrs

/-!
# Attributes of headings

A heading may end with attributes in braces. They are separated by blanks and are an id behind a number
sign, a class behind a dot, or a name with or without a value. A lone character says nothing.

* `HeadingAttrs` : what the braces say;
* `HeadingAttrs.split` : the text in front of the braces, and what is inside them;
* `HeadingAttrs.toAttrs` : the attributes of the heading.
-/

namespace Rubric.Markdown

/-- What the braces behind a heading say. -/
structure HeadingAttrs where
  id : Option String := none
  classes : List String := []
  /-- Other attributes. The value is empty where there is only a name. -/
  others : List (String × String) := []
deriving DecidableEq

namespace HeadingAttrs

/-- A value without the quotes around it. -/
def unquote (value : String) : String :=
  match value.toList with
  | q :: r =>
    if (q = '\x22' ∨ q = '\x27') ∧ r.getLast? = some q then String.ofList r.dropLast else value
  | [] => value

/-- Adds one piece of what is inside the braces. -/
def add (h : HeadingAttrs) (piece : List Char) : HeadingAttrs :=
  if (String.ofList piece).utf8ByteSize ≤ 1 then h
  else
    match piece with
    | '#' :: id => { h with id := some (String.ofList id) }
    | '.' :: name => { h with classes := h.classes ++ [String.ofList name] }
    | _ =>
      let value := String.ofList ((piece.dropWhile (· != '=')).drop 1)
      { h with
        others := h.others ++ [(String.ofList (piece.takeWhile (· != '=')), unquote value)] }

def isSeparator (c : Char) : Bool :=
  c == ' ' || c == '\t' || c == '\n' || c == '\x0c' || c == '\r'

/-- The pieces between blanks, where `piece` is the part of the current one that has been read. -/
def pieces (piece : List Char) : List Char → List (List Char)
  | [] => if piece.isEmpty then [] else [piece]
  | c :: r =>
    if isSeparator c then
      if piece.isEmpty then pieces [] r else piece :: pieces [] r
    else pieces (piece ++ [c]) r

def read (inside : List Char) : HeadingAttrs := (pieces [] inside).foldl add {}

def isInside (c : Char) : Bool :=
  !(c == '\x7b' || c == '\x7d' || c == '<' || c == '>' || c == '\x5c' || c == '\n')

/-- The text of a heading in front of the braces at its end, and what is inside them. -/
def split (text : List Char) : List Char × Option HeadingAttrs :=
  match text.reverse.dropWhile fun c => c == ' ' || c == '\t' || c == '\n' with
  | '\x7d' :: r =>
    match r.dropWhile isInside with
    | '\x7b' :: before => (before.reverse, some (read (r.takeWhile isInside).reverse))
    | _ => (text, none)
  | _ => (text, none)

/-- The attributes of the heading. -/
def toAttrs (h : HeadingAttrs) : Attrs :=
  let attrs := h.id.elim [] fun id => Attrs.set [] "id" id
  let attrs := h.classes.foldl Attrs.addClass attrs
  h.others.foldl (fun attrs (name, value) => attrs.set name value) attrs

end HeadingAttrs
end Rubric.Markdown
