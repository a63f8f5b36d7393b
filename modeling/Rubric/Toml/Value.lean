/-!
# TOML values

* `Toml.Value` : strings, numbers, times, lists, and tables of named values. A table knows how it came
  about, which decides what may still be added to it;
* `Toml.Table.update?` : a change to the table that a path of keys leads to;
* `Toml.Table.insert?`, `Toml.Table.open?`, `Toml.Table.openNext?` : the three kinds of statements.
-/

namespace Rubric.Toml

/-- How a table came about. -/
inductive Origin where
  /-- On the way to a table with a header of its own. -/
  | passed
  /-- By a key with dots. -/
  | dotted
  /-- By a header. -/
  | header
  /-- As a value between braces, to which nothing can be added. -/
  | braces
deriving DecidableEq

/-- A value. Numbers with fractions and times are kept as they are written. -/
inductive Value where
  | string (s : String)
  | integer (n : Int)
  | float (text : String)
  | boolean (b : Bool)
  | time (text : String)
  /-- A list; the tables of one that was made by headers can be added to. -/
  | list (byHeaders : Bool) (items : List Value)
  | table (origin : Origin) (entries : List (String × Value))
deriving Inhabited

/-- Named values, in the order in which they came. -/
abbrev Table := List (String × Value)

namespace Table

def get? (t : Table) (key : String) : Option Value := t.lookup key

/-- Gives a key a value, in the place of the one it has. -/
def set (t : Table) (key : String) (v : Value) : Table :=
  match t with
  | [] => [(key, v)]
  | (k, w) :: r => if k = key then (key, v) :: r else (k, w) :: set r key v

/-- A change to a table that may be refused. -/
abbrev Change := Origin → Table → Option (Origin × Table)

/-- Makes a change to the table that is a value: a table to which something can be added, or the last
one of a list of tables. A key with dots leads into no table that has a header. -/
def changeValue? (dotted : Bool) (change : Change) : Value → Option Value
  | .table origin t =>
    if origin = .braces ∨ (dotted ∧ origin = .header) then none
    else (change origin t).map fun (origin, t) => .table origin t
  | .list true items =>
    match items.getLast? with
    | some (.table origin t) =>
      (change origin t).map fun (origin, t) => .list true (items.dropLast ++ [.table origin t])
    | _ => none
  | _ => none

/-- Makes a change to the table that a path leads to. Tables that are missing on the way are made. -/
def update? (dotted : Bool) (change : Change) : List String → Change
  | [] => change
  | key :: path => fun origin t =>
    match t.get? key with
    | none =>
      (update? dotted change path (if dotted then .dotted else .passed) []).map fun (made, inner) =>
        (origin, t.set key (.table made inner))
    | some v =>
      (changeValue? dotted (update? dotted change path) v).map fun v => (origin, t.set key v)

/-! ## Statements -/

/-- A new value for the last key of a path. Only a table that keys with dots have made takes values
from them. -/
def insert? (path : List String) (v : Value) : Change :=
  match path.getLast? with
  | none => fun _ _ => none
  | some key =>
    update? true (fun origin t =>
      if origin = .dotted ↔ path.dropLast = [] then none
      else if (t.get? key).isSome then none
      else some (origin, t.set key v)) path.dropLast

/-- A table header. It opens a new table, or one that was only passed so far. -/
def open? (path : List String) : Change :=
  match path.getLast? with
  | none => fun _ _ => none
  | some key =>
    update? false (fun origin t =>
      match t.get? key with
      | none => some (origin, t.set key (.table .header []))
      | some (.table .passed inner) => some (origin, t.set key (.table .header inner))
      | some _ => none) path.dropLast

/-- A header of a list of tables. It opens the next table of the list. -/
def openNext? (path : List String) : Change :=
  match path.getLast? with
  | none => fun _ _ => none
  | some key =>
    update? false (fun origin t =>
      match t.get? key with
      | none => some (origin, t.set key (.list true [.table .header []]))
      | some (.list true items) => some (origin, t.set key (.list true (items ++ [.table .header []])))
      | some _ => none) path.dropLast

end Table
end Rubric.Toml
