import Rubric.Markdown.Line
import Rubric.Markdown.RawHtml
import Rubric.Selector

/-!
# How blocks begin

Each of these looks at what is left of a line behind at most three blanks.

* `isRule` : a thematic break;
* `headingStart?`, `underline?` : a heading with number signs, and the line below another heading;
* `Fence.ofStart?`, `Fence.isClosedBy` : the fences around code;
* `ListMarker.read?` : the marker of a list item;
* `interruptsParagraph` : the line ends a paragraph that is open.
-/

namespace Rubric.Markdown

/-- Three or more of the same mark, with blanks between them. -/
def isRule (s : List Char) : Bool :=
  match s with
  | c :: _ =>
    (c == '*' || c == '-' || c == '_') && s.all (fun x => x == c || x == ' ' || x == '\t') &&
      3 ≤ s.count c
  | [] => false

/-- The level of a heading that begins with number signs, and what follows them. -/
def headingStart? (s : List Char) : Option (HeadingLevel × List Char) :=
  let rest := s.dropWhile (· == '#')
  match HeadingLevel.ofNat? (s.length - rest.length), rest with
  | some level, [] => some (level, [])
  | some level, c :: _ => if isSpace c then some (level, rest) else none
  | none, _ => none

/-- The level of the heading above the line. -/
def underline? (s : List Char) : Option HeadingLevel :=
  match s with
  | c :: _ =>
    if isBlankText (s.dropWhile (· == c)) then
      if c = '=' then HeadingLevel.ofNat? 1 else if c = '-' then HeadingLevel.ofNat? 2 else none
    else none
  | [] => none

/-! ## Fences -/

/-- The opening fence of a block of code. -/
structure Fence where
  char : Char
  /-- How many there are. -/
  length : Nat
  /-- The blank columns in front. -/
  indent : Nat
  /-- What stands behind the fence. -/
  info : List Char
deriving DecidableEq

namespace Fence

/-- The fence that a line begins with. -/
def ofStart? (indent : Nat) (s : List Char) : Option Fence :=
  match s with
  | c :: _ =>
    let rest := s.dropWhile (· == c)
    let length := s.length - rest.length
    if length < 3 then none
    else if c = '~' ∨ (c = '\x60' ∧ !rest.contains '\x60') then
      some ⟨c, length, indent, (dropSpaces (dropSpaces rest).reverse).reverse⟩
    else none
  | [] => none

def isClosedBy (f : Fence) (s : List Char) : Bool :=
  let rest := s.dropWhile (· == f.char)
  f.length ≤ s.length - rest.length && rest.all (· == ' ')

end Fence

/-! ## List items -/

/-- What makes items belong to the same list. -/
inductive ListKind where
  | bullet (char : Char)
  | ordered (delimiter : Char)
deriving DecidableEq

/-- The marker of a list item. -/
structure ListMarker where
  kind : ListKind
  /-- The number of an ordered item. -/
  start : Option Nat
  /-- The number of characters. -/
  width : Nat
deriving DecidableEq

namespace ListMarker

def maxDigits : Nat := 9

/-- A blank or the end of the line follows. -/
def endsMarker (s : List Char) : Bool :=
  match s with
  | [] => true
  | c :: _ => c == ' ' || c == '\t'

def decimal (digits : List Char) : Nat :=
  digits.foldl (fun n c => n * 10 + (c.toNat - 48)) 0

/-- The marker that a line begins with, and what follows it. -/
def read? (s : List Char) : Option (ListMarker × List Char) :=
  match s with
  | [] => none
  | c :: r =>
    if c = '-' ∨ c = '+' ∨ c = '*' then
      if endsMarker r then some (⟨.bullet c, none, 1⟩, r) else none
    else
      let digits := s.takeWhile Char.isDigit
      match s.dropWhile Char.isDigit with
      | d :: rest =>
        if 1 ≤ digits.length ∧ digits.length ≤ maxDigits ∧ (d = '.' ∨ d = ')') ∧ endsMarker rest then
          some (⟨.ordered d, some (decimal digits), digits.length + 1⟩, rest)
        else none
      | [] => none

/-- An item may begin with the line: it is no thematic break. -/
def ofStart? (s : List Char) : Option (ListMarker × List Char) :=
  if isRule s then none else read? s

theorem length_read? {s : List Char} {m : ListMarker} {rest : List Char}
    (h : read? s = some (m, rest)) : rest.length < s.length := by
  unfold read? at h
  split at h
  · cases h
  · rename_i c r
    split at h
    · split at h <;> cases h; simp
    · simp only at h
      split at h
      · rename_i d rest' hd
        split at h
        · cases h
          have := (List.dropWhile_suffix Char.isDigit (l := c :: r)).length_le
          rw [hd] at this
          simp only [List.length_cons] at this ⊢
          omega
        · cases h
      · cases h

theorem length_ofStart? {s : List Char} {m : ListMarker} {rest : List Char}
    (h : ofStart? s = some (m, rest)) : rest.length < s.length := by
  unfold ofStart? at h
  split at h
  · cases h
  · exact length_read? h

end ListMarker

/-! ## Paragraphs -/

/-- A list item that may end a paragraph. If it would be inside the block of the paragraph it needs
content, and the number one if it has any. -/
def itemInterrupts (inside : Bool) (s : List Char) : Bool :=
  match ListMarker.read? s with
  | none => false
  | some (m, rest) => !inside || ((m.start.all (· == 1)) && !isBlankText rest)

/-- The line ends a paragraph that is open. -/
def interruptsParagraph (inside : Bool) (s : List Char) : Bool :=
  isRule s || (headingStart? s).isSome || (Fence.ofStart? 0 s).isSome || s.head? == some '>' ||
    itemInterrupts inside s || (HtmlEnd.interrupting? s).isSome

end Rubric.Markdown
