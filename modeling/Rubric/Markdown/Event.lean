import Rubric.Markdown.Block.Parser
import Rubric.Markdown.Inline.Parser

/-!
# Events

A document as a sequence of events: elements start and finish around what is in them.

* `Event` : the start or finish of an element, or a piece of content;
* `Inline.events`, `Block.events` : the events of a document;
* `Event.ofSource` : the events of a source text.
-/

namespace Rubric.Markdown

/-- The kinds of elements that can be told apart when they finish. -/
inductive TagKind where
  | codeBlock
  | image
  | other
deriving DecidableEq

/-- An element that starts. -/
inductive Tag where
  | paragraph
  | heading (level : HeadingLevel) (attrs : Option HeadingAttrs)
  | quote
  /-- Code, and what stands behind the fence if there is one. -/
  | codeBlock (info : Option String)
  /-- A list, and the first number of one that is ordered. -/
  | list (start : Option Nat)
  | item
  | emphasis
  | strong
  | strikethrough
  | link (target : LinkTarget)
  | image (target : LinkTarget)
  | htmlBlock
  /-- Any other element. -/
  | other
deriving DecidableEq

/-- How an element finishes. -/
def Tag.kind : Tag → TagKind
  | codeBlock _ => .codeBlock
  | image _ => .image
  | _ => .other

/-- A step through a document. -/
inductive Event where
  | start (tag : Tag)
  | finish (kind : TagKind)
  | text (content : String)
  | code (content : String)
  | html (content : String)
  | softBreak
  | hardBreak
  | rule
  /-- Anything else, which is left out. -/
  | other
deriving DecidableEq

namespace Event

def within (tag : Tag) (events : List Event) : List Event :=
  .start tag :: events ++ [.finish tag.kind]

def ofText (s : List Char) : List Event := if s.isEmpty then [] else [.text (String.ofList s)]

def ofHtml (s : List Char) : List Event := if s.isEmpty then [] else [.html (String.ofList s)]

end Event

mutual
def Inline.events : Inline → List Event
  | .text s => Event.ofText s
  | .code s => [.code (String.ofList s)]
  | .html s => Event.ofHtml s
  | .softBreak => [.softBreak]
  | .hardBreak => [.hardBreak]
  | .emphasis content => Event.within .emphasis (Inline.eventsAll content)
  | .strong content => Event.within .strong (Inline.eventsAll content)
  | .strikethrough content => Event.within .strikethrough (Inline.eventsAll content)
  | .link target content => Event.within (.link target) (Inline.eventsAll content)
  | .image target content => Event.within (.image target) (Inline.eventsAll content)

def Inline.eventsAll : List Inline → List Event
  | [] => []
  | i :: rest => i.events ++ Inline.eventsAll rest
end

def textEvents (definitions : Definitions) (s : List Char) : List Event :=
  Inline.eventsAll (Inline.ofText definitions s)

mutual
/-- The events of a block. Paragraphs right inside the items of a tight list are text alone. -/
def Block.events (definitions : Definitions) (tight : Bool) : Block → List Event
  | .paragraph s =>
    if tight then textEvents definitions s else Event.within .paragraph (textEvents definitions s)
  | .heading level attrs s => Event.within (.heading level attrs) (textEvents definitions s)
  | .quote blocks => Event.within .quote (Block.eventsAll definitions false blocks)
  | .list start tight items => Event.within (.list start) (Block.eventsAll definitions tight items)
  | .item blocks => Event.within .item (Block.eventsAll definitions tight blocks)
  | .code info s => Event.within (.codeBlock (info.map String.ofList)) (Event.ofText s)
  | .html s => Event.within .htmlBlock (Event.ofHtml s)
  | .rule => [.rule]

def Block.eventsAll (definitions : Definitions) (tight : Bool) : List Block → List Event
  | [] => []
  | b :: rest => b.events definitions tight ++ Block.eventsAll definitions tight rest
end

def Event.ofSource (source : String) : List Event :=
  let (blocks, definitions) := Block.ofSource source.toList
  Block.eventsAll definitions false blocks

end Rubric.Markdown
