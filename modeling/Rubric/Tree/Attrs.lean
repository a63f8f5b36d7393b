import Rubric.Text.Blank

/-!
# Attributes

* `Attrs` : the attributes of an element, sorted by name in code point order;
* `get?`, `set`, `erase` : one attribute;
* `hasClass`, `addClass` : the words of the `class` attribute;
* `addStyle` : a further declaration in the `style` attribute.
-/

namespace Rubric

/-- Attribute names with their values, in code point order of the names. -/
abbrev Attrs := List (String × String)

namespace Attrs

def get? : Attrs → String → Option String
  | [], _ => none
  | (n, v) :: rest, name => if n = name then some v else get? rest name

def has (attrs : Attrs) (name : String) : Bool := (attrs.get? name).isSome

/-- Gives an attribute a value, in its place in the order. -/
def set : Attrs → String → String → Attrs
  | [], name, value => [(name, value)]
  | (n, v) :: rest, name, value =>
    if name < n then (name, value) :: (n, v) :: rest
    else if name = n then (name, value) :: rest
    else (n, v) :: set rest name value

def erase (attrs : Attrs) (name : String) : Attrs := attrs.filter fun entry => entry.1 != name

/-- The attributes of a list of names and values, of which later ones win. -/
def ofList (entries : List (String × String)) : Attrs :=
  entries.foldl (fun attrs (name, value) => attrs.set name value) []

/-! ## Classes and styles -/

def classes (attrs : Attrs) : List (List Char) :=
  (attrs.get? "class").elim [] fun names => Text.words names.toList

def hasClass (attrs : Attrs) (name : String) : Bool := attrs.classes.contains name.toList

/-- Adds a class at the end of the list unless it is there. A blank list is replaced. -/
def addClass (attrs : Attrs) (name : String) : Attrs :=
  if attrs.hasClass name then attrs
  else
    match attrs.get? "class" with
    | some names =>
      if Text.allBlank names.toList then attrs.set "class" name
      else attrs.set "class" (names ++ " " ++ name)
    | none => attrs.set "class" name

/-- Declarations with the semicolon after the last one. -/
def terminated (declarations : String) : String :=
  if (Text.trimEnd declarations.toList).getLast? = some ';' then declarations
  else declarations ++ ";"

/-- Adds a declaration to the inline style. -/
def addStyle (attrs : Attrs) (declaration : String) : Attrs :=
  match attrs.get? "style" with
  | some declarations =>
    if Text.allBlank declarations.toList then attrs.set "style" declaration
    else attrs.set "style" (terminated declarations ++ declaration)
  | none => attrs.set "style" declaration

/-! ## Small facts -/

@[simp] theorem get?_set_self (attrs : Attrs) (name value : String) :
    (attrs.set name value).get? name = some value := by
  induction attrs with
  | nil => simp [set, get?]
  | cons entry rest ih =>
    simp only [set]
    split
    · simp [get?]
    · split
      · simp [get?]
      · rename_i hne
        simpa [get?, Ne.symm hne] using ih

theorem get?_set_of_ne (attrs : Attrs) {name other : String} (value : String)
    (h : other ≠ name) : (attrs.set name value).get? other = attrs.get? other := by
  induction attrs with
  | nil => simp [set, get?, h.symm]
  | cons entry rest ih =>
    simp only [set]
    split
    · simp [get?, h.symm]
    · split
      · rename_i heq
        simp [get?, ← heq, h.symm]
      · simp [get?, ih]

@[simp] theorem get?_erase_self (attrs : Attrs) (name : String) :
    (attrs.erase name).get? name = none := by
  induction attrs with
  | nil => rfl
  | cons entry rest ih =>
    by_cases h : entry.1 = name
    · simpa [erase, h] using ih
    · simpa [erase, get?, h] using ih

theorem get?_erase_of_ne (attrs : Attrs) {name other : String} (h : other ≠ name) :
    (attrs.erase name).get? other = attrs.get? other := by
  induction attrs with
  | nil => rfl
  | cons entry rest ih =>
    by_cases hn : entry.1 = name
    · simpa [erase, get?, hn, h.symm] using ih
    · by_cases ho : entry.1 = other
      · simp [erase, get?, ho, h]
      · simpa [erase, get?, hn, ho] using ih

end Attrs
end Rubric
