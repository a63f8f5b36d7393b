import Rubric.Numeral.Additive
import Rubric.Numeral.Chinese
import Rubric.Numeral.Ethiopic

/-!
# Numbering systems

* `CounterRange` : inclusive bounds on counts, either of which may be open;
* `CounterSystem` : an algorithm for writing counts, with its symbols;
* `CounterSystem.represent? s n` : the bare numeral of `n`, if the algorithm has one;
* `CounterSystem.defaultRange` and `CounterSystem.signed` : the range of a system that is given none, and whether
  a negative count is written as a sign and a magnitude.
-/

namespace Rubric

/-- Inclusive bounds on the counts that a style writes itself. -/
structure CounterRange where
  min : Option Int
  max : Option Int
deriving DecidableEq

namespace CounterRange

def unbounded : CounterRange := ⟨none, none⟩

def atLeast (n : Int) : CounterRange := ⟨some n, none⟩

def contains (r : CounterRange) (n : Int) : Bool := r.min.all (· ≤ n) && r.max.all (n ≤ ·)

@[simp] theorem contains_unbounded (n : Int) : unbounded.contains n = true := rfl

end CounterRange

/-- An algorithm for writing counts together with its symbols. -/
inductive CounterSystem where
  /-- Positional notation; the first symbol is zero. -/
  | numeric (symbols : List String)
  /-- Bijective notation, without a zero. -/
  | alphabetic (symbols : List String)
  /-- Weights with their symbols, added up in the order of the table. -/
  | additive (table : List (Nat × String))
  /-- Every lap through the symbols repeats them once more. -/
  | symbolic (symbols : List String)
  /-- The symbols over and over. -/
  | cyclic (symbols : List String)
  /-- A table that starts at a given count. -/
  | fixed (first : Int) (symbols : List String)
  /-- Chinese numerals below ten thousand. -/
  | chinese (symbols : Numeral.ChineseSymbols)
  /-- Ethiopic numerals. -/
  | ethiopic
deriving DecidableEq

namespace CounterSystem

/-- The range of a style of this system that declares none. -/
def defaultRange : CounterSystem → CounterRange
  | numeric _ | fixed .. => .unbounded
  | alphabetic _ | symbolic _ | cyclic _ | ethiopic => .atLeast 1
  | additive _ => .atLeast 0
  | chinese _ => ⟨some (-9999), some 9999⟩

/-- Whether negative counts are written as a sign around the magnitude. -/
def signed : CounterSystem → Bool
  | cyclic _ | fixed .. => false
  | _ => true

/-- The entry of a table that starts at the count `first`. -/
def tableEntry? (first : Int) (symbols : List String) (n : Int) : Option String :=
  if n < first then none else symbols[(n - first).toNat]?

/-- The symbol of a count from one up in an endless cycle. -/
def cycleEntry? (symbols : List String) (n : Nat) : Option String :=
  if n = 0 then none else symbols[(n - 1) % symbols.length]?

def spell? : CounterSystem → Nat → Option String
  | numeric symbols, n => Numeral.positional symbols n
  | alphabetic symbols, n => Numeral.alphabetic symbols n
  | additive table, n => Numeral.additive table n
  | symbolic symbols, n => Numeral.symbolic symbols n
  | cyclic symbols, n => cycleEntry? symbols n
  | fixed first symbols, n => tableEntry? first symbols n
  | chinese symbols, n => Numeral.chinese symbols n
  | ethiopic, n => Numeral.ethiopic n

/-- The bare numeral of a count, if the system has one. Only a table can start below zero. -/
def represent? (s : CounterSystem) (n : Int) : Option String :=
  match s with
  | fixed first symbols => tableEntry? first symbols n
  | s => if n < 0 then none else s.spell? n.toNat

end CounterSystem
end Rubric
