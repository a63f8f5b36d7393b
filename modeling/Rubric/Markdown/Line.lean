/-!
# Lines

* `splitLines` : the lines of a text, and whether each has an end;
* `Line` : a place in a line with its column. Tabs reach to the next multiple of four, and one that is
  used up in part leaves blank columns behind;
* `Line.indent`, `skip` : the blank columns at a place, and the place behind them;
* `Line.text` : what is left of a line.
-/

namespace Rubric.Markdown

def isSpace (c : Char) : Bool := c == ' ' || c == '\t' || c == '\x0b' || c == '\x0c'

def isBlankText (s : List Char) : Bool := s.all isSpace

def dropSpaces (s : List Char) : List Char := s.dropWhile isSpace

/-- The lines of a text. The last one may lack its end. -/
def splitLines : List Char → List (List Char × Bool)
  | [] => []
  | '\n' :: r => ([], true) :: splitLines r
  | '\r' :: '\n' :: r => ([], true) :: splitLines r
  | '\r' :: r => ([], true) :: splitLines r
  | c :: r =>
    match splitLines r with
    | [] => [([c], false)]
    | (line, ended) :: rest => (c :: line, ended) :: rest

/-- A place in a line. -/
structure Line where
  /-- The column of the place. -/
  column : Nat := 0
  /-- Blank columns that a tab has left. -/
  pending : Nat := 0
  chars : List Char
  /-- The line has an end. -/
  ended : Bool := true
deriving DecidableEq

namespace Line

/-- The place one blank column further. -/
def skipOne? (l : Line) : Option Line :=
  if l.pending > 0 then some { l with column := l.column + 1, pending := l.pending - 1 }
  else
    match l.chars with
    | ' ' :: r => some { l with column := l.column + 1, chars := r }
    | '\t' :: r =>
      some { l with column := l.column + 1, pending := 3 - l.column % 4, chars := r }
    | _ => none

/-- The place at most so many blank columns further. -/
def skip : Nat → Line → Line
  | 0, l => l
  | n + 1, l => l.skipOne?.elim l (skip n)

/-- The number of blank columns at a place, as far as a limit. -/
def indent : Nat → Line → Nat
  | 0, _ => 0
  | n + 1, l => l.skipOne?.elim 0 fun l => indent n l + 1

def isBlank (l : Line) : Bool := isBlankText l.chars

def atEnd (l : Line) : Bool := l.chars.isEmpty

/-- The place behind a number of characters that are one column wide. -/
def advance (l : Line) (n : Nat) : Line := { l with column := l.column + n, chars := l.chars.drop n }

def ending (l : Line) : List Char := if l.ended then ['\n'] else []

def text (l : Line) : List Char := List.replicate l.pending ' ' ++ l.chars ++ l.ending

theorem length_skipOne? {l l' : Line} (h : l.skipOne? = some l') :
    l'.chars.length ≤ l.chars.length := by
  unfold skipOne? at h
  split at h
  · cases h; exact Nat.le_refl _
  · split at h <;> cases h <;> simp_all

theorem length_skip (n : Nat) (l : Line) : (l.skip n).chars.length ≤ l.chars.length := by
  induction n generalizing l with
  | zero => exact Nat.le_refl _
  | succ n ih =>
    unfold skip
    cases h : l.skipOne? with
    | none => exact Nat.le_refl _
    | some l' => exact Nat.le_trans (ih l') (length_skipOne? h)

end Line
end Rubric.Markdown
