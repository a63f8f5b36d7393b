/-!
# Element kinds and selectors

* `HeadingLevel` : a heading level from one to six;
* `ElementKind` : the kinds of element that carry a numbering series;
* `Selector` : the choice of a series among those in scope, written `X`, `L`, `H`, or `H1` to `H6`;
* `Selector.parse?` and `Selector.toText` : its written form, of which either case is read.
-/

namespace Rubric

/-- The level of a heading. -/
structure HeadingLevel where
  number : Nat
  one_le : 1 ≤ number := by decide
  le_six : number ≤ 6 := by decide
deriving DecidableEq

namespace HeadingLevel

@[ext] theorem ext {l m : HeadingLevel} (h : l.number = m.number) : l = m := by
  cases l; cases m; simp_all

def ofNat? (n : Nat) : Option HeadingLevel :=
  if h : 1 ≤ n ∧ n ≤ 6 then some ⟨n, h.1, h.2⟩ else none

def ofDigit? (c : Char) : Option HeadingLevel :=
  if c.isDigit then ofNat? (c.toNat - '0'.toNat) else none

def outer? (l : HeadingLevel) : Option HeadingLevel := ofNat? (l.number - 1)

def tag (l : HeadingLevel) : String := "h" ++ toString l.number

@[simp] theorem ofNat?_number (l : HeadingLevel) : ofNat? l.number = some l := by
  simp [ofNat?, l.one_le, l.le_six]

theorem number_of_ofNat? {n : Nat} {l : HeadingLevel} (h : ofNat? n = some l) : l.number = n := by
  unfold ofNat? at h; split at h <;> simp_all; rw [← h]

end HeadingLevel

/-- The kinds of element that carry a numbering series. -/
inductive ElementKind where
  | heading (level : HeadingLevel)
  | orderedList
  | unorderedList
deriving DecidableEq

namespace ElementKind

/-- The level of a heading tag. -/
def headingLevel? (tag : String) : Option HeadingLevel :=
  match tag.toList with
  | ['h', digit] => HeadingLevel.ofDigit? digit
  | _ => none

/-- The kind of the elements with a tag. -/
def ofTag? (tag : String) : Option ElementKind :=
  if tag = "ol" then some orderedList
  else if tag = "ul" then some unorderedList
  else (headingLevel? tag).map heading

def isList : ElementKind → Bool
  | heading _ => false
  | orderedList | unorderedList => true

def tag : ElementKind → String
  | heading level => level.tag
  | orderedList => "ol"
  | unorderedList => "ul"

end ElementKind

/-- The choice of a series among those in scope. -/
inductive Selector where
  /-- The innermost series that numbers anything. -/
  | any
  /-- The innermost list series that numbers anything. -/
  | list
  /-- The innermost heading series. -/
  | heading
  /-- The series of the headings of one level. -/
  | level (level : HeadingLevel)
deriving DecidableEq

namespace Selector

/-- Reads a selector in either case. -/
def parse? (s : String) : Option Selector :=
  match s.toList.map Char.toLower with
  | ['x'] => some any
  | ['l'] => some list
  | ['h'] => some heading
  | ['h', digit] => (HeadingLevel.ofDigit? digit).map level
  | _ => none

def toText : Selector → String
  | any => "X"
  | list => "L"
  | heading => "H"
  | level l => "H" ++ toString l.number

/-- A series of this kind can be the one that is chosen. -/
def matchesKind : Selector → ElementKind → Bool
  | any, _ => true
  | list, kind => kind.isList
  | heading, .heading _ => true
  | heading, _ => false
  | level l, kind => kind == .heading l

def numberedOnly : Selector → Bool
  | any | list => true
  | heading | level _ => false

end Selector
end Rubric
