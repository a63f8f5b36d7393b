import Rubric.Markdown.Link
import Rubric.Text.Punctuation

/-!
# Text with markup

* `Inline` : the parts of the text of a paragraph or heading;
* `DelimiterRun` : asterisks, underscores or tildes in a row, which may open or close emphasis;
* `Fragment` : what reading from left to right finds: a finished part, a run of delimiters, or a
  bracket that may open a link.
-/

namespace Rubric.Markdown

/-- A part of a text with markup. -/
inductive Inline where
  | text (content : List Char)
  | code (content : List Char)
  | html (content : List Char)
  | softBreak
  | hardBreak
  | emphasis (content : List Inline)
  | strong (content : List Inline)
  | strikethrough (content : List Inline)
  | link (target : LinkTarget) (content : List Inline)
  | image (target : LinkTarget) (content : List Inline)
deriving Inhabited

/-- Delimiters of emphasis in a row. -/
structure DelimiterRun where
  char : Char
  length : Nat
  opens : Bool
  closes : Bool
deriving DecidableEq

namespace DelimiterRun

/-- The run may stand between two letters. -/
def mayBeInside (char : Char) (length : Nat) : Bool := char == '*' || (char == '~' && length > 1)

/-- A run may open emphasis between two characters. -/
def canOpen (char : Char) (length : Nat) (previous next : Char) : Bool :=
  !Text.isBlank next &&
    ((mayBeInside char length && (char == '~' || !Text.isPunctuation next)) ||
      Text.isBlank previous || Text.isPunctuation previous)

/-- A run may close emphasis between two characters. -/
def canClose (char : Char) (length : Nat) (previous next : Char) : Bool :=
  !Text.isBlank previous &&
    ((mayBeInside char length && !Text.isPunctuation previous) ||
      Text.isBlank next || Text.isPunctuation next)

/-- The run between two characters. The ends of the text count as blanks. -/
def between (char : Char) (length : Nat) (previous next : Char) : DelimiterRun :=
  ⟨char, length, canOpen char length previous next, canClose char length previous next⟩

/-- The run means something. No more than two tildes do. -/
def isActive (r : DelimiterRun) : Bool := (r.opens || r.closes) && (r.char != '~' || r.length ≤ 2)

end DelimiterRun

/-- What reading a text from left to right finds. -/
inductive Fragment where
  | inline (content : Inline)
  | run (run : DelimiterRun)
  /-- An opening bracket, and the text behind it. No link may begin with one that is not active. -/
  | bracket (image active : Bool) (behind : List Char)
deriving Inhabited

end Rubric.Markdown
