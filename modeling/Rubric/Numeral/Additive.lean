/-!
# Numerals written by adding symbols

* `additive table n` : a sum of weighted symbols, taken greedily in the order of the table;
* `symbolic symbols n` : one symbol, repeated once more on every lap through the table.
-/

namespace Rubric.Numeral

def replicateText (n : Nat) (s : String) : String := String.join (List.replicate n s)

/-- Takes every weight of the table in turn as often as it still fits. There is no numeral when
something is left at the end of the table. -/
def additiveFrom : List (Nat × String) → Nat → Option String
  | [], _ => none
  | (weight, symbol) :: rest, n =>
    if weight = 0 then additiveFrom rest n
    else
      let taken := replicateText (n / weight) symbol
      if n % weight = 0 then some taken
      else (additiveFrom rest (n % weight)).map (taken ++ ·)

/-- The numeral of a count: zero is the first symbol of weight zero, anything else a sum. -/
def additive (table : List (Nat × String)) (n : Nat) : Option String :=
  if n = 0 then (table.find? fun entry => entry.1 == 0).map (·.2)
  else additiveFrom table n

/-- Symbolic numerals stop after this many copies of a symbol. -/
def longestRun : Nat := 60

/-- The symbols one after the other, then each twice, and so on up to the longest run. -/
def symbolic (symbols : List String) (n : Nat) : Option String :=
  if n = 0 ∨ symbols.isEmpty then none
  else
    let copies := (n - 1) / symbols.length + 1
    if copies > longestRun then none
    else symbols[(n - 1) % symbols.length]?.map (replicateText copies)

end Rubric.Numeral
