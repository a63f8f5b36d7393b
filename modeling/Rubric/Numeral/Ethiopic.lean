import Rubric.Numeral.Positional

/-!
# Ethiopic numerals

* `ethiopic n` : the numeral of `n ≥ 1`.

Digits are grouped in pairs from the right. A group in an odd place carries the mark of a hundred
unless it is zero, and a group in an even place other than the last the mark of ten thousand. A
group of one is left out in front and before the mark of a hundred.
-/

namespace Rubric.Numeral.Ethiopic

def ones : List Char := ['፩', '፪', '፫', '፬', '፭', '፮', '፯', '፰', '፱']

def tens : List Char := ['፲', '፳', '፴', '፵', '፶', '፷', '፸', '፹', '፺']

def hundred : Char := '፻'

def myriad : Char := '፼'

/-- The character of a digit in a row of nine; zero has none. -/
def digit (row : List Char) (d : Nat) : List Char := if d = 0 then [] else row[d - 1]?.toList

def pair (g : Nat) : List Char := digit tens (g / 10) ++ digit ones (g % 10)

/-- A group is silent when it is zero, or one in front or before the mark of a hundred. -/
def silent (first odd : Bool) (g : Nat) : Bool := g == 0 || (g == 1 && (first || odd))

/-- The groups of a number, most significant first; `first` holds for the leading one only. -/
def write : Bool → List Nat → List Char
  | _, [] => []
  | first, g :: gs =>
    let odd := gs.length % 2 == 1
    (if silent first odd g then [] else pair g) ++
      (if odd then (if g = 0 then [] else [hundred]) else if gs.isEmpty then [] else [myriad]) ++
      write false gs

end Ethiopic

def ethiopic (n : Nat) : Option String :=
  if n = 0 then none
  else if n = 1 then some (String.ofList (Ethiopic.digit Ethiopic.ones 1))
  else some (String.ofList (Ethiopic.write true (digits 100 n)))

end Rubric.Numeral
