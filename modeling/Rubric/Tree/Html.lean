import Rubric.Tree.Node

/-!
# HTML

* `Html.encodeText`, `Html.encodeValue` : the characters that are written as entities in text and in
  double-quoted attribute values;
* `Node.html` : the serialisation of a node. The root stands for its children only, and void elements
  have neither children nor an end tag.
-/

namespace Rubric
namespace Html

def encodeChar (c : Char) : List Char :=
  if c = '&' then "&amp;".toList
  else if c = '<' then "&lt;".toList
  else if c = '>' then "&gt;".toList
  else [c]

def encodeValueChar (c : Char) : List Char :=
  if c = '\x22' then "&quot;".toList else encodeChar c

/-- Text with its markup characters as entities. -/
def encodeText (s : String) : String := String.ofList (s.toList.flatMap encodeChar)

/-- An attribute value with its markup characters and quotes as entities. -/
def encodeValue (s : String) : String := String.ofList (s.toList.flatMap encodeValueChar)

def attrsHtml (attrs : Attrs) : String :=
  String.join (attrs.map fun (name, value) => " " ++ name ++ "=\"" ++ encodeValue value ++ "\"")

/-- The elements that are written as a start tag alone. -/
def voidTags : List String := ["br", "hr", "img", "input", "meta", "link"]

end Html

namespace Node

mutual
def html : Node → String
  | text content => Html.encodeText content
  | element tag attrs children =>
    if tag = rootTag then htmlAll children
    else if Html.voidTags.contains tag then "<" ++ tag ++ Html.attrsHtml attrs ++ ">"
    else
      "<" ++ tag ++ Html.attrsHtml attrs ++ ">" ++ htmlAll children ++ "</" ++ tag ++ ">"

def htmlAll : List Node → String
  | [] => ""
  | n :: rest => n.html ++ htmlAll rest
end

end Node
end Rubric
