import Rubric.Files.Path
import Rubric.Text.Alphanumeric

/-!
# Environment variables

* `Environment` : variables with values; the variable `HOME` holds the home directory;
* `Environment.pieces` : a text as plain characters and variables: `$name`, `${name}` and
  `${name:-default}`. Two dollar signs stand for one;
* `Environment.expand?` : a path with its variables replaced by their values, and then a leading `~` by
  the home directory.
-/

namespace Rubric

/-- The variables that are set. -/
structure Environment where
  bindings : List (String × String) := []

namespace Environment

def get? (env : Environment) (name : String) : Option String := env.bindings.lookup name

/-- The home directory, unless its name is empty. -/
def home? (env : Environment) : Option String :=
  (env.get? "HOME").filter fun home => !home.isEmpty

/-! ## Variables -/

/-- A piece of a text with variables. -/
inductive Piece where
  | plain (s : List Char)
  /-- A variable, and what stands for it where it is not set. -/
  | variable (name : List Char) (default : Option (List Char))
deriving DecidableEq

def isNameChar (c : Char) : Bool := Text.isAlphanumeric c || c == '_'

/-- Cuts a text at the first `:-`. -/
def cutDefault : List Char → List Char × Option (List Char)
  | [] => ([], none)
  | [c] => ([c], none)
  | c :: d :: r =>
    if c = ':' ∧ d = '-' then ([], some r)
    else
      let (name, default) := cutDefault (d :: r)
      (c :: name, default)

/-- What stands between braces: a name, with a default value or not. A text that begins with `:-` is
a name as a whole. -/
def braced (s : List Char) : Piece :=
  match cutDefault s with
  | ([], _) => .variable s none
  | (name, default) => .variable name default

/-- The piece at the beginning of a text that is not empty, and what follows it. -/
def nextPiece (c : Char) (r : List Char) : Piece × List Char :=
  if c ≠ '$' then (.plain [c], r)
  else
    match r with
    | [] => (.plain [c], [])
    | d :: s =>
      if d = '$' then (.plain [c], s)
      else if d = '\x7b' then
        if '\x7d' ∈ s then
          (braced (s.takeWhile (· != '\x7d')), (s.dropWhile (· != '\x7d')).drop 1)
        else (.plain [c, d], s)
      else if isNameChar d then (.variable (r.takeWhile isNameChar) none, r.dropWhile isNameChar)
      else (.plain [c], r)

theorem length_nextPiece_le (c : Char) (r : List Char) : (nextPiece c r).2.length ≤ r.length := by
  have h (p : Char → Bool) (s : List Char) : (s.dropWhile p).length ≤ s.length :=
    (List.dropWhile_sublist p).length_le
  unfold nextPiece
  split
  · exact Nat.le_refl _
  · split
    · exact Nat.le_refl _
    · rename_i d s
      have hs := h (· != '\x7d') s
      have hd := h isNameChar (d :: s)
      split
      · simp
      · split
        · split
          · simp only [List.length_drop, List.length_cons]; omega
          · simp
        · split
          · exact hd
          · exact Nat.le_refl _

/-- The pieces of a text, in order. -/
def pieces : List Char → List Piece
  | [] => []
  | c :: r => (nextPiece c r).1 :: pieces (nextPiece c r).2
termination_by s => s.length
decreasing_by
  have := length_nextPiece_le c r
  simp only [List.length_cons]
  omega

/-- What a piece stands for: nothing, where a variable is not set and has no default. -/
def value? (env : Environment) : Piece → Option (List Char)
  | .plain s => some s
  | .variable name default => ((env.get? (String.ofList name)).map String.toList) <|> default

def expandVariables? (env : Environment) (s : List Char) : Option (List Char) :=
  ((pieces s).mapM env.value?).map List.flatten

/-! ## The home directory -/

/-- A leading `~`, alone or in front of a slash, stands for the home directory. -/
def expandHome (env : Environment) (s : List Char) : List Char :=
  match s, env.home? with
  | '~' :: r, some home => if r.isEmpty || r.head? == some '/' then home.toList ++ r else s
  | _, _ => s

/-- A text begins with the sign of the home directory. -/
def namesHome (s : List Char) : Bool := s.head? == some '~'

/-- A path with the values of its variables and the home directory. A `~` that comes from a variable
is only a character. -/
def expand? (env : Environment) (p : Path) : Option Path :=
  (env.expandVariables? p.text.toList).map fun s =>
    ⟨String.ofList (if namesHome s && !namesHome p.text.toList then s else env.expandHome s)⟩

end Environment
end Rubric
