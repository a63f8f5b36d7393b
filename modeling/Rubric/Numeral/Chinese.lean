import Rubric.Numeral.Positional

/-!
# Chinese numerals below ten thousand

* `ChineseSymbols` : ten digits, and the marks of ten, hundred and thousand;
* `chinese symbols n` : the numeral of `n`, for `n` up to 9999.

A run of zeros inside a number is read as one zero, zeros at its end are silent, and ten to
nineteen drop the leading one.
-/

namespace Rubric.Numeral

/-- The characters of one style of Chinese numerals. -/
structure ChineseSymbols where
  /-- Zero to nine. -/
  digits : Vector Char 10
  /-- Ten, hundred and thousand. -/
  powers : Vector Char 3
deriving DecidableEq

namespace ChineseSymbols

/-- The character of a digit; nothing stands for more than nine. -/
def digit (symbols : ChineseSymbols) (d : Nat) : List Char := symbols.digits[d]?.toList

/-- The mark after a digit with `places` digits behind it; the last digit has none. -/
def power (symbols : ChineseSymbols) (places : Nat) : List Char :=
  if places = 0 then [] else symbols.powers[places - 1]?.toList

/-- The rest of a numeral. `teen` says that the number lies between ten and nineteen, `gap` that
zeros stand in front which have not been read. -/
def write (symbols : ChineseSymbols) (teen : Bool) : Bool → List Nat → List Char
  | _, [] => []
  | gap, d :: ds =>
    if d = 0 then symbols.write teen true ds
    else
      (if gap then symbols.digit 0 else []) ++
        (if teen ∧ ds.length = 1 then [] else symbols.digit d) ++
        symbols.power ds.length ++ symbols.write teen false ds

end ChineseSymbols

def chinese (symbols : ChineseSymbols) (n : Nat) : Option String :=
  if 9999 < n then none
  else if n = 0 then some (String.ofList (symbols.digit 0))
  else some (String.ofList (symbols.write (10 ≤ n ∧ n ≤ 19) false (digits 10 n)))

end Rubric.Numeral
