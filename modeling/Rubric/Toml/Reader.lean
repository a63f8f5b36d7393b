import Rubric.Toml.Quoted
import Rubric.Toml.Scalar

/-!
# Reading TOML

* `readKey` : a key, or several that dots join;
* `readValue` : a value; lists and tables within it nest no deeper than a limit;
* `Statement` : what the lines of a document say, and `readStatements` : all that a document says;
* `parse?` : the table that a document describes.
-/

namespace Rubric.Toml

/-! ## Gaps -/

def skipSpaces (s : List Char) : List Char := s.dropWhile isSpace

theorem length_skipSpaces_le (s : List Char) : (skipSpaces s).length ≤ s.length :=
  (List.dropWhile_sublist isSpace).length_le

/-- A text without the blanks, line ends and comments in front. -/
def skipGaps : List Char → List Char
  | [] => []
  | c :: r =>
    if isSpace c then skipGaps r
    else if c = '#' then skipGaps (r.dropWhile isPlain)
    else
      match afterNewline? (c :: r) with
      | some rest => if _ : rest.length ≤ r.length then skipGaps rest else rest
      | none => c :: r
termination_by s => s.length
decreasing_by
  all_goals simp only [List.length_cons]
  all_goals try have := (List.dropWhile_sublist isPlain (l := r)).length_le
  all_goals omega

def endLine (s : List Char) : Option (List Char) :=
  let s :=
    match skipSpaces s with
    | '#' :: r => r.dropWhile isPlain
    | s => s
  if s.isEmpty then some [] else afterNewline? s

/-! ## Keys -/

def isKeyChar (c : Char) : Bool := c.isAlphanum || c == '-' || c == '_'

/-- A single key, and what follows it. -/
def readName (s : List Char) : Option (String × List Char) :=
  if (s.head?.bind quoteOf?).isSome then
    (readLineString s).map fun (name, rest) => (String.ofList name, rest)
  else
    let name := s.takeWhile isKeyChar
    if name.isEmpty then none else some (String.ofList name, s.dropWhile isKeyChar)

/-- Keys that dots join, and what follows them and the blanks behind them. -/
def readKey (s : List Char) : Option (List String × List Char) :=
  match readName s with
  | none => none
  | some (name, rest) =>
    match skipSpaces rest with
    | '.' :: rest =>
      if _ : rest.length < s.length then
        (readKey (skipSpaces rest)).map fun (names, rest) => (name :: names, rest)
      else none
    | rest => some ([name], rest)
termination_by s.length
decreasing_by
  have := length_skipSpaces_le rest
  omega

/-- Keys, an equals sign, and what follows it and the blanks behind it. -/
def readKeyEquals (s : List Char) : Option (List String × List Char) :=
  match readKey s with
  | some (key, '=' :: rest) => some (key, skipSpaces rest)
  | _ => none

/-! ## Values -/

/-- A reader of values, which gives what follows them too. -/
abbrev ValueReader := List Char → Option (Value × List Char)

/-- The items of a list, of which the bracket has been read. A comma may follow the last one. -/
def readItems (item : ValueReader) (s : List Char) : Option (List Value × List Char) :=
  match skipGaps s with
  | ']' :: rest => some ([], rest)
  | t =>
    match item t with
    | none => none
    | some (v, rest) =>
      match skipGaps rest with
      | ']' :: rest => some ([v], rest)
      | ',' :: rest =>
        if _ : rest.length < s.length then
          (readItems item rest).map fun (vs, rest) => (v :: vs, rest)
        else none
      | _ => none
termination_by s.length

/-- The rest of a table between braces, of which some entries have been read. -/
def readEntries (item : ValueReader) (t : Table) (s : List Char) : Option (Table × List Char) :=
  match readKeyEquals (skipSpaces s) with
  | none => none
  | some (key, rest) =>
    match item rest with
    | none => none
    | some (v, rest) =>
      match Table.insert? key v .braces t, skipSpaces rest with
      | some (_, t), '\x7d' :: rest => some (t, rest)
      | some (_, t), ',' :: rest =>
        if _ : rest.length < s.length then readEntries item t rest else none
      | _, _ => none
termination_by s.length

def readSimple (s : List Char) : Option (Value × List Char) :=
  if (s.head?.bind quoteOf?).isSome then
    (readString s).map fun (text, rest) => (.string (String.ofList text), rest)
  else readScalar s

/-- A value in which lists and tables are nested as deep as given at most, and what follows it. -/
def readValue : Nat → ValueReader
  | 0 => readSimple
  | depth + 1 => fun s =>
    match s with
    | '[' :: rest =>
      (readItems (readValue depth) rest).map fun (items, rest) => (.list false items, rest)
    | '\x7b' :: rest =>
      match skipSpaces rest with
      | '\x7d' :: rest => some (.table .braces [], rest)
      | rest =>
        (readEntries (readValue depth) [] rest).map fun (t, rest) => (.table .braces t, rest)
    | s => readSimple s

/-- How deep lists and tables may be nested within a value. -/
def maxDepth : Nat := 80

/-! ## Documents -/

/-- What a line of a document says. -/
inductive Statement where
  /-- A key has a value. -/
  | entry (key : List String) (v : Value)
  /-- The entries that follow are those of a table. -/
  | table (path : List String)
  /-- The entries that follow are those of a new table at the end of a list. -/
  | nextTable (path : List String)

/-- A statement, and what follows it. -/
def readStatement : List Char → Option (Statement × List Char)
  | '[' :: '[' :: s =>
    match readKey (skipSpaces s) with
    | some (path, ']' :: ']' :: rest) => some (.nextTable path, rest)
    | _ => none
  | '[' :: s =>
    match readKey (skipSpaces s) with
    | some (path, ']' :: rest) => some (.table path, rest)
    | _ => none
  | s =>
    match readKeyEquals s with
    | none => none
    | some (key, rest) => (readValue maxDepth rest).map fun (v, rest) => (.entry key v, rest)

/-- The statements of a document, one on each line. -/
def readStatements (s : List Char) : Option (List Statement) :=
  let t := skipGaps s
  if t.isEmpty then some []
  else
    match readStatement t with
    | none => none
    | some (statement, rest) =>
      match endLine rest with
      | none => none
      | some rest =>
        if _ : rest.length < s.length then (readStatements rest).map (statement :: ·) else none
termination_by s.length

/-- A document of which some statements have been read: its table, and the path to the table whose
entries come next. -/
structure Draft where
  table : Table := []
  path : List String := []

/-- Adds what a statement says. -/
def Draft.add? (d : Draft) : Statement → Option Draft
  | .entry key v =>
    (Table.update? false (Table.insert? key v) d.path .header d.table).map fun (_, t) =>
      { d with table := t }
  | .table path => (Table.open? path .header d.table).map fun (_, t) => ⟨t, path⟩
  | .nextTable path => (Table.openNext? path .header d.table).map fun (_, t) => ⟨t, path⟩

def ofStatements? (statements : List Statement) : Option Table :=
  (statements.foldlM Draft.add? {}).map Draft.table

/-- A text without the byte order mark in front. -/
def dropMark : List Char → List Char
  | '\ufeff' :: r => r
  | s => s

def parse? (s : String) : Option Table := (readStatements (dropMark s.toList)).bind ofStatements?

end Rubric.Toml
