import Rubric.Counter.System

/-!
# Counter styles

* `CounterRule` : one way of writing counts: a system with its range, sign, padding and affixes;
* `CounterStyle` : a rule followed by the rules it falls back to;
* `CounterStyle.format` : the text of a count, by the first rule of the chain that represents it and
  in plain decimal if none does.
-/

namespace Rubric

/-- Text on both sides of a numeral. -/
structure Affixes where
  before : String
  after : String
deriving DecidableEq

/-- The least width of a numeral, filled on the left. -/
structure Pad where
  width : Nat
  symbol : String
deriving DecidableEq

/-- One way of writing counts. -/
structure CounterRule where
  name : String
  system : CounterSystem
  range : CounterRange := system.defaultRange
  sign : Affixes := ⟨"-", ""⟩
  affixes : Affixes := ⟨"", ""⟩
  pad : Option Pad := none
deriving DecidableEq

namespace CounterRule

/-- Magnitudes go up to this one. The least 64-bit count has none. -/
def maxMagnitude : Nat := 9223372036854775807

/-- The count is written as a sign around its magnitude. -/
def isSigned (r : CounterRule) (n : Int) : Bool := n < 0 && r.system.signed

/-- The digits of a count, its sign and affixes left off. -/
def core? (r : CounterRule) (n : Int) : Option String :=
  if r.isSigned n then
    if n.natAbs ≤ maxMagnitude then r.system.represent? n.natAbs else none
  else r.system.represent? n

/-- The fill in front of digits so many characters wide. The sign counts towards the width. -/
def fill (r : CounterRule) (signed : Bool) (width : Nat) : String :=
  match r.pad with
  | none => ""
  | some pad =>
    let signWidth := if signed then r.sign.before.length + r.sign.after.length else 0
    Numeral.replicateText (pad.width - signWidth - width) pad.symbol

/-- The digits with fill, sign and affixes around them. -/
def wrap (r : CounterRule) (signed : Bool) (core : String) : String :=
  let body := r.fill signed core.length ++ core
  let body := if signed then r.sign.before ++ body ++ r.sign.after else body
  r.affixes.before ++ body ++ r.affixes.after

/-- The text of a count, if it is in range and the system represents it. -/
def represent? (r : CounterRule) (n : Int) : Option String :=
  if r.range.contains n then (r.core? n).map (r.wrap (r.isSigned n)) else none

end CounterRule

/-- A rule for writing counts and the rules that take over, in order, where it has no numeral. -/
structure CounterStyle where
  rule : CounterRule
  fallbacks : List CounterRule := []
deriving DecidableEq

namespace CounterStyle

def name (s : CounterStyle) : String := s.rule.name

def rules (s : CounterStyle) : List CounterRule := s.rule :: s.fallbacks

/-- The style that takes over. -/
def fallback? (s : CounterStyle) : Option CounterStyle :=
  match s.fallbacks with
  | [] => none
  | r :: rs => some ⟨r, rs⟩

/-- A rule in front of a style it falls back to, or alone. -/
def ofRule (rule : CounterRule) (fallback : Option CounterStyle := none) : CounterStyle :=
  ⟨rule, fallback.elim [] rules⟩

/-- The text of a count by the first rule that represents it, or else its plain decimal text. -/
def format (s : CounterStyle) (n : Int) : String :=
  (s.rules.findSome? (·.represent? n)).getD (toString n)

@[simp] theorem fallback?_ofRule (rule : CounterRule) (fallback : Option CounterStyle) :
    (ofRule rule fallback).fallback? = fallback := by
  cases fallback <;> rfl

theorem format_of_represent {s : CounterStyle} {n : Int} {t : String}
    (h : s.rule.represent? n = some t) : s.format n = t := by
  simp [format, rules, h]

/-- A count that the style's own rule has no numeral for is left to its fallback. -/
theorem format_of_not_represent {s : CounterStyle} {n : Int} (h : s.rule.represent? n = none) :
    s.format n = s.fallback?.elim (toString n) (·.format n) := by
  rcases s with ⟨r, _ | ⟨r', rs⟩⟩ <;> simp_all [format, rules, fallback?]

end CounterStyle
end Rubric
