import Rubric.Markdown.HeadingAttrs
import Rubric.Markdown.Link
import Rubric.Markdown.Marker

/-!
# Blocks

* `Block` : the blocks of a document. The text of paragraphs and headings is not read yet;
* `Block.ofHeading`, `ofUnderlined` : the two forms of headings.
-/

namespace Rubric.Markdown

/-- A block of a document. -/
inductive Block where
  | paragraph (text : List Char)
  | heading (level : HeadingLevel) (attrs : Option HeadingAttrs) (text : List Char)
  | quote (blocks : List Block)
  /-- A list and its items. The paragraphs of a tight list are no blocks of their own. -/
  | list (start : Option Nat) (tight : Bool) (items : List Block)
  | item (blocks : List Block)
  /-- Code, and what stands behind the fence if there is one. -/
  | code (info : Option (List Char)) (text : List Char)
  | html (text : List Char)
  | rule
deriving Inhabited

namespace Block

def trimRight (s : List Char) : List Char := (s.reverse.dropWhile isGap).reverse

/-- Text of a heading without the number signs that close it. -/
def dropClosing (s : List Char) : List Char :=
  let text := (s.reverse.dropWhile (· == ' ')).reverse
  match text.reverse.dropWhile (· == '#') with
  | [] => []
  | ' ' :: r => (r.dropWhile (· == ' ')).reverse
  | _ => text

/-- The heading with a text behind its number signs. -/
def ofHeading (level : HeadingLevel) (s : List Char) : Block :=
  let (text, attrs) := HeadingAttrs.split (dropSpaces s)
  heading level attrs (dropClosing text)

/-- The heading with a text above its underline. -/
def ofUnderlined (level : HeadingLevel) (s : List Char) : Block :=
  let (text, attrs) := HeadingAttrs.split s
  heading level attrs (trimRight text)

end Block
end Rubric.Markdown
