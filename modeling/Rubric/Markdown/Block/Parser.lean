import Rubric.Markdown.Block.Basic

/-!
# Reading blocks

Lines are read one after the other. Every line first continues the open quotes and lists as far as it
can; what is left of it goes to the open block of text or code, or begins new blocks.

* `Frame`, `Leaf` : an open quote, list or item with its blocks so far, and an open block of lines;
* `BlockState` : all open blocks, and the definitions so far;
* `BlockState.step` : reads a line;
* `Block.ofSource` : the blocks of a document and its definitions.
-/

namespace Rubric.Markdown

/-- A kind of block that holds others. -/
inductive Container where
  | quote
  | list (kind : ListKind) (start : Option Nat) (tight : Bool)
  /-- An item whose lines are indented by so many columns. -/
  | item (indent : Nat)
deriving DecidableEq

/-- An open container. -/
structure Frame where
  container : Container
  /-- The blocks in it, latest first. -/
  blocks : List Block := []

/-- The block of a container that is closed. -/
def Frame.close (f : Frame) : Block :=
  match f.container with
  | .quote => .quote f.blocks.reverse
  | .list _ start tight => .list start tight f.blocks.reverse
  | .item _ => .item f.blocks.reverse

/-- An open block of lines. -/
inductive Leaf where
  | none
  | paragraph (text : List Char)
  | fenced (fence : Fence) (text : List Char)
  /-- Indented code, and the blank lines that belong to it if more code follows. -/
  | indented (text gap : List Char)
  | html (ending : HtmlEnd) (text : List Char)

/-- All open blocks. -/
structure BlockState where
  /-- The open containers, innermost first. -/
  frames : List Frame := []
  /-- The blocks outside of containers, latest first. -/
  top : List Block := []
  leaf : Leaf := .none
  /-- The last line was blank. -/
  blank : Bool := false
  /-- The innermost item has begun with a blank line. -/
  emptyItem : Bool := false
  definitions : Definitions := []

/-- The number of containers that a line continues, outermost first, and what is left of it. -/
def continueFrames : List Frame → Line → Nat × Line
  | [], l => (0, l)
  | f :: rest, l =>
    match f.container with
    | .list .. =>
      let (n, l) := continueFrames rest l
      (n + 1, l)
    | .item indent =>
      if l.indent indent = indent ∨ (l.skip indent).atEnd then
        let (n, l) := continueFrames rest (l.skip indent)
        (n + 1, l)
      else (0, l)
    | .quote =>
      match (l.skip 3).chars with
      | '>' :: _ =>
        let (n, l) := continueFrames rest (((l.skip 3).advance 1).skip 1)
        (n + 1, l)
      | _ => (0, l)

namespace BlockState

/-! ## Open blocks -/

def add (s : BlockState) (b : Block) : BlockState :=
  match s.frames with
  | [] => { s with top := b :: s.top }
  | f :: rest => { s with frames := { f with blocks := b :: f.blocks } :: rest }

def push (s : BlockState) (c : Container) : BlockState := { s with frames := ⟨c, []⟩ :: s.frames }

def pop (s : BlockState) : BlockState :=
  match s.frames with
  | [] => s
  | f :: rest => { { s with frames := rest, emptyItem := false } with }.add f.close

/-- Closes a paragraph. The definitions in front of its text are kept elsewhere. -/
def closeParagraph (s : BlockState) (block : List Char → Block) (text : List Char) : BlockState :=
  let (definitions, text) := Definition.readAll text
  let s := { s with definitions := s.definitions ++ definitions, leaf := .none }
  if text.all isGap then s else s.add (block (dropSpaces text))

/-- Closes the open block of lines. -/
def closeLeaf (s : BlockState) : BlockState :=
  match s.leaf with
  | .none => s
  | .paragraph text => s.closeParagraph .paragraph text
  | .fenced fence text => { s with leaf := .none }.add (.code (some (unescape fence.info)) text)
  | .indented text _ => { s with leaf := .none }.add (.code none text)
  | .html _ text => { s with leaf := .none }.add (.html text)

def inItem (s : BlockState) : Bool :=
  match s.frames with
  | ⟨.item _, _⟩ :: _ => true
  | _ => false

def inList (s : BlockState) : Bool :=
  match s.frames with
  | ⟨.list .., _⟩ :: _ => true
  | _ => false

def inQuote (s : BlockState) : Bool :=
  match s.frames with
  | ⟨.quote, _⟩ :: _ => true
  | _ => false

/-- Ends an item that has begun with two blank lines. -/
def finishEmptyItem (s : BlockState) : BlockState :=
  let s := if s.emptyItem && s.blank && s.inItem then s.pop else s
  { s with emptyItem := false }

/-- A blank line stood between two blocks of the innermost item: its list is not tight. -/
def loosenOuter (s : BlockState) : BlockState :=
  match s.frames with
  | f :: ⟨.list kind start _, blocks⟩ :: rest =>
    { s with frames := f :: ⟨.list kind start false, blocks⟩ :: rest }
  | _ => s

/-- Gets ready for a block that is no item of the innermost list. -/
def finishList (s : BlockState) : BlockState :=
  let s := s.finishEmptyItem
  let s := if s.inList then s.pop else s
  if s.blank then { s.loosenOuter with blank := false } else s

def openList (s : BlockState) (m : ListMarker) : BlockState :=
  { (if s.frames.isEmpty then s else s.finishList).push (.list m.kind m.start true) with blank := false }

/-- Gets ready for an item, in the innermost list if that is of the same kind. -/
def continueList (s : BlockState) (m : ListMarker) : BlockState :=
  let s := s.finishEmptyItem
  match s.frames with
  | ⟨.list kind start tight, blocks⟩ :: rest =>
    if kind = m.kind then
      { s with
        frames := ⟨.list kind start (tight && !s.blank), blocks⟩ :: rest
        blank := false }
    else s.openList m
  | _ => s.openList m

/-! ## The beginning of blocks -/

/-- Opens the quotes and items that a line begins. Nothing is left where an item has no content. -/
def openContainers (s : BlockState) (l : Line) : BlockState × Option Line :=
  let indent := l.indent 4
  if indent = 4 then (s, some l)
  else
    match _ : ListMarker.ofStart? (l.skip 3).chars with
    | some (m, rest) =>
      let width := indent + m.width + 1
      let behind : Line := { l.skip 3 with column := (l.skip 3).column + m.width, chars := rest }
      if behind.isBlank then
        ({ (s.continueList m).push (.item width) with emptyItem := true }, none)
      else
        let extra := if (behind.skip 1).indent 4 = 4 then 0 else (behind.skip 1).indent 4
        ((s.continueList m).push (.item (width + extra))).openContainers ((behind.skip 1).skip extra)
    | none =>
      match _ : (l.skip 3).chars with
      | '>' :: rest =>
        (s.finishList.push .quote).openContainers
          (Line.skip 1 { l.skip 3 with column := (l.skip 3).column + 1, chars := rest })
      | _ => (s, some l)
termination_by l.chars.length
decreasing_by
  · rename_i h _
    exact Nat.lt_of_le_of_lt (Nat.le_trans (Line.length_skip _ _) (Line.length_skip _ _))
      (Nat.lt_of_lt_of_le (ListMarker.length_ofStart? h) (Line.length_skip _ _))
  · rename_i h
    have := Line.length_skip 3 l
    rw [h] at this
    exact Nat.lt_of_le_of_lt (Line.length_skip _ _) this

/-- Begins a block of lines, or adds a block that is one line. -/
def startLeaf (s : BlockState) (l : Line) : BlockState :=
  let chars := (l.skip 3).chars
  if l.isBlank then if s.inQuote then s else { s with blank := true }
  else if l.indent 4 = 4 then { s.finishList with leaf := .indented (l.skip 4).text [] }
  else
    let s := s.finishList
    match HtmlEnd.ofStart? chars with
    | some ending =>
      let s := { s with leaf := .html ending (List.replicate (l.indent 4) ' ' ++ (l.skip 3).text) }
      if ending.isMetBy chars then s.closeLeaf else s
    | none =>
      if isRule chars then s.add .rule
      else
        match headingStart? chars, Fence.ofStart? (l.indent 4) chars with
        | some (level, text), _ => s.add (.ofHeading level text)
        | none, some fence => { s with leaf := .fenced fence [] }
        | none, none => { s with leaf := .paragraph (l.skip 3).text }

/-- Closes the containers that a line does not continue, and begins new blocks with it. -/
def begin (s : BlockState) (continued : Nat) (l : Line) : BlockState :=
  match (Nat.repeat pop (s.frames.length - continued) s).openContainers l with
  | (s, none) => s
  | (s, some l) => s.startLeaf l

/-! ## Lines of open blocks -/

/-- The line may be the title of the definition in front of it. -/
def mayBeTitle (definitions : Definitions) (l : Line) : Bool :=
  match definitions.getLast?, dropSpaces l.chars with
  | some d, c :: _ => d.target.title.isEmpty && (c == '\x22' || c == '\x27' || c == '(')
  | _, _ => false

/-- A paragraph consists of definitions that the line does not belong to. -/
def isSettled (text : List Char) (inside : Bool) (l : Line) : Bool :=
  text.head? == some '[' &&
    match Definition.readAll text with
    | (definitions, []) => !(inside && mayBeTitle definitions l)
    | _ => false

/-- The heading that a line makes of an open paragraph. -/
def underlineOf? (inside : Bool) (l : Line) : Option HeadingLevel :=
  if inside && l.indent 4 != 4 then underline? (l.skip 3).chars else none

def continuesParagraph (inside : Bool) (l : Line) : Bool :=
  !l.isBlank && (l.indent 4 == 4 || !interruptsParagraph inside (l.skip 3).chars)

/-- Reads a line while a paragraph is open. -/
def stepParagraph (s : BlockState) (text : List Char) (continued : Nat) (inside : Bool) (l : Line) :
    BlockState :=
  if isSettled text inside l then s.closeLeaf.begin continued l
  else
    match underlineOf? inside l with
    | some level => s.closeParagraph (.ofUnderlined level) text
    | none =>
      if continuesParagraph inside l then { s with leaf := .paragraph (text ++ l.text) }
      else s.closeLeaf.begin continued l

/-- Reads a line of code between fences. -/
def stepFenced (s : BlockState) (fence : Fence) (text : List Char) (l : Line) : BlockState :=
  let l := l.skip fence.indent
  if l.indent 4 != 4 && fence.isClosedBy (l.skip 3).chars then s.closeLeaf
  else { s with leaf := .fenced fence (text ++ l.text) }

def stepIndented (s : BlockState) (text gap : List Char) (l : Line) : BlockState :=
  if l.isBlank then { s with leaf := .indented text (gap ++ (l.skip 4).text), blank := true }
  else { s with leaf := .indented (text ++ gap ++ (l.skip 4).text) [], blank := false }

def stepHtml (s : BlockState) (ending : HtmlEnd) (text : List Char) (l : Line) : BlockState :=
  let s := { s with leaf := .html ending (text ++ l.text) }
  if ending.isMetBy l.chars then s.closeLeaf else s

def step (s : BlockState) (line : Line) : BlockState :=
  let (continued, l) := continueFrames s.frames.reverse line
  let inside := continued == s.frames.length
  match s.leaf with
  | .none => s.begin continued l
  | .paragraph text => s.stepParagraph text continued inside l
  | .fenced fence text =>
    if inside then s.stepFenced fence text l else s.closeLeaf.begin continued l
  | .indented text gap =>
    if inside && (l.isBlank || l.indent 4 == 4) then s.stepIndented text gap l
    else s.closeLeaf.begin continued l
  | .html ending text =>
    if inside && !(ending == .blankLine && l.isBlank) then s.stepHtml ending text l
    else s.closeLeaf.begin continued l

def finish (s : BlockState) : BlockState :=
  let s := s.closeLeaf
  Nat.repeat pop s.frames.length s

end BlockState

/-- The blocks of a document, and its definitions. -/
def Block.ofSource (source : List Char) : List Block × Definitions :=
  let s := ((splitLines source).foldl
    (fun s (chars, ended) => s.step { chars := chars, ended := ended }) ({} : BlockState)).finish
  (s.top.reverse, s.definitions)

end Rubric.Markdown
