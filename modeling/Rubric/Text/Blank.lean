/-!
# White space

* `isBlank c` : the character has the White_Space property of Unicode;
* `trimStart`, `trimEnd`, `trim` : text without the blanks at its ends;
* `words` : the runs of characters that are not blank.
-/

namespace Rubric.Text

/-- The White_Space property: the five controls from tab to carriage return, next line, and every
space and line separator. Zero-width spaces and the byte order mark are not in it. -/
def isBlank (c : Char) : Bool :=
  let n := c.toNat
  (9 ≤ n && n ≤ 13) || n == 32 || n == 0x85 || n == 0xA0 || n == 0x1680 ||
    (0x2000 ≤ n && n ≤ 0x200A) || n == 0x2028 || n == 0x2029 || n == 0x202F || n == 0x205F ||
    n == 0x3000

def trimStart (s : List Char) : List Char := s.dropWhile isBlank

def trimEnd (s : List Char) : List Char := (s.reverse.dropWhile isBlank).reverse

def trim (s : List Char) : List Char := trimEnd (trimStart s)

def allBlank (s : List Char) : Bool := s.all isBlank

/-- The words of a text, where `word` is the part of the current one that has been read. -/
def wordsFrom (word : List Char) : List Char → List (List Char)
  | [] => if word.isEmpty then [] else [word]
  | c :: r =>
    if isBlank c then
      if word.isEmpty then wordsFrom [] r else word :: wordsFrom [] r
    else wordsFrom (word ++ [c]) r

/-- The maximal runs of characters that are not blank, in order. -/
def words (s : List Char) : List (List Char) := wordsFrom [] s

/-! ## Small facts -/

theorem wordsFrom_blank {c : Char} (h : isBlank c = true) (r : List Char) :
    wordsFrom [] (c :: r) = wordsFrom [] r := by
  simp [wordsFrom, h]

end Rubric.Text
