import Rubric.Markdown.Entity
import Rubric.Markdown.Line
import Rubric.Text.Blank
import Rubric.Text.Folding

/-!
# Link targets

* `LinkTarget` : where a link leads, and its title;
* `readDestination?`, `readTitle?`, `readLabel?` : the parts of links and definitions;
* `LinkTarget.readInline?` : a target in parentheses;
* `Definition` : a target under a label. `Definition.read?` reads one at the beginning of a paragraph;
* `Definitions.find?` : the first definition of a label. Case and the amount of white space in labels
  do not matter.
-/

namespace Rubric.Markdown

/-- Where a link leads. -/
structure LinkTarget where
  destination : String
  title : String := ""
deriving DecidableEq

/-- How deep parentheses may be nested in a destination. -/
def maxParentheses : Nat := 32

/-- A destination up to the closing angle bracket. -/
def readPointed? : List Char → Option (List Char × List Char)
  | [] => none
  | '\x5c' :: c :: r =>
    if Text.isAsciiPunctuation c then
      (readPointed? r).map fun (d, rest) => ('\x5c' :: c :: d, rest)
    else (readPointed? (c :: r)).map fun (d, rest) => ('\x5c' :: d, rest)
  | c :: r =>
    if c = '>' then some ([], r)
    else if c = '\n' ∨ c = '<' then none
    else (readPointed? r).map fun (d, rest) => (c :: d, rest)

/-- A destination up to a blank, a control character or the parenthesis that closes the link. -/
def readPlain? (depth : Nat) : List Char → Option (List Char × List Char)
  | [] => if depth = 0 then some ([], []) else none
  | '\x5c' :: c :: r =>
    if Text.isAsciiPunctuation c then
      (readPlain? depth r).map fun (d, rest) => ('\x5c' :: c :: d, rest)
    else (readPlain? depth (c :: r)).map fun (d, rest) => ('\x5c' :: d, rest)
  | c :: r =>
    if c.toNat ≤ 32 then if depth = 0 then some ([], c :: r) else none
    else if c = '(' then
      if depth > maxParentheses then none
      else (readPlain? (depth + 1) r).map fun (d, rest) => (c :: d, rest)
    else if c = ')' then
      if depth = 0 then some ([], c :: r)
      else (readPlain? (depth - 1) r).map fun (d, rest) => (c :: d, rest)
    else (readPlain? depth r).map fun (d, rest) => (c :: d, rest)

/-- A destination in either form, as it is written. -/
def readDestination? : List Char → Option (List Char × List Char)
  | '<' :: r => readPointed? r
  | s => readPlain? 0 s

/-- The inside of a title, up to the closing delimiter. -/
def readTitleBody? (opening closing : Char) : List Char → Option (List Char × List Char)
  | [] => none
  | '\x5c' :: c :: r =>
    if Text.isAsciiPunctuation c then
      (readTitleBody? opening closing r).map fun (t, rest) => ('\x5c' :: c :: t, rest)
    else (readTitleBody? opening closing (c :: r)).map fun (t, rest) => ('\x5c' :: t, rest)
  | c :: r =>
    if c = closing then some ([], r)
    else if c = opening then none
    else (readTitleBody? opening closing r).map fun (t, rest) => (c :: t, rest)

/-- Text without the blanks at the beginnings of its lines after the first. -/
def unindent : List Char → List Char
  | [] => []
  | '\n' :: c :: r => if isSpace c then unindent ('\n' :: r) else '\n' :: unindent (c :: r)
  | c :: r => c :: unindent r

/-- A title between quotes or parentheses. -/
def readTitle? : List Char → Option (List Char × List Char)
  | c :: r =>
    if c = '\x22' ∨ c = '\x27' then readTitleBody? c c r
    else if c = '(' then readTitleBody? '(' ')' r
    else none
  | [] => none

/-- The text of a title, references and escapes resolved. -/
def titleText (s : List Char) : String := String.ofList (unescape (unindent s))

/-- What follows blanks with at most one end of line among them. -/
def dropBreak (s : List Char) : List Char :=
  match dropSpaces s with
  | '\n' :: r => dropSpaces r
  | r => r

namespace LinkTarget

/-- The target of a link in parentheses, and what follows it. -/
def readInline? (s : List Char) : Option (LinkTarget × List Char) :=
  match s with
  | '(' :: r => do
    let (destination, r) ← readDestination? (dropBreak r)
    let target := String.ofList (unescape destination)
    let r := dropBreak r
    match readTitle? r with
    | some (title, r) =>
      match dropBreak r with
      | ')' :: rest => some (⟨target, titleText title⟩, rest)
      | _ => none
    | none =>
      match r with
      | ')' :: rest => some (⟨target, ""⟩, rest)
      | _ => none
  | _ => none

end LinkTarget

/-! ## Labels -/

def maxLabel : Nat := 999

/-- The inside of a label, up to the closing bracket. -/
def readLabelBody? : List Char → Option (List Char × List Char)
  | [] => none
  | ['\x5c'] => none
  | '\x5c' :: c :: r => (readLabelBody? r).map fun (l, rest) => ('\x5c' :: c :: l, rest)
  | c :: r =>
    if c = ']' then some ([], r)
    else if c = '[' then none
    else (readLabelBody? r).map fun (l, rest) => (c :: l, rest)

/-- A label that is not blank, in brackets. -/
def readLabel? : List Char → Option (List Char × List Char)
  | '[' :: r =>
    match readLabelBody? r with
    | some (label, rest) =>
      if Text.allBlank label ∨ label.length > maxLabel then none else some (label, rest)
    | none => none
  | _ => none

/-- The form of a label by which it is looked up. -/
def foldLabel (label : List Char) : List Char :=
  Text.foldCase (List.intercalate [' '] (Text.words label))

/-! ## Definitions -/

/-- A target under a label. -/
structure Definition where
  label : List Char
  target : LinkTarget
deriving DecidableEq

/-- The definitions of a document, the first one first. -/
abbrev Definitions := List Definition

def Definitions.find? (ds : Definitions) (label : List Char) : Option LinkTarget :=
  (List.find? (fun d => d.label == foldLabel label) ds).map Definition.target

/-- What follows the end of a line that is blank from here on. -/
def endOfLine? (s : List Char) : Option (List Char) :=
  match dropSpaces s with
  | [] => some []
  | '\n' :: r => some r
  | _ => none

namespace Definition

/-- The rest of a definition behind its destination: a title that is followed by nothing else, or
nothing. There has to be a blank in front of a title. -/
def readRest? (s : List Char) : Option (String × List Char) :=
  let bare := (endOfLine? s).map ("", ·)
  let r := dropBreak s
  if r.length = s.length then bare
  else
    match readTitle? r with
    | none => bare
    | some (title, rest) =>
      match endOfLine? rest with
      | some rest => some (titleText title, rest)
      | none => bare

/-- The definition at the beginning of a paragraph, and what follows it. -/
def read? (s : List Char) : Option (Definition × List Char) := do
  let (label, r) ← readLabel? s
  match r with
  | ':' :: r =>
    let r := dropBreak r
    let (destination, rest) ← readDestination? r
    if rest.length = r.length then none
    else
      let (title, rest) ← readRest? rest
      some (⟨foldLabel label, String.ofList (unescape destination), title⟩, rest)
  | _ => none

/-- The definitions at the beginning of a paragraph, and the text that is left. -/
def readAll (s : List Char) : Definitions × List Char :=
  match read? s with
  | none => ([], s)
  | some (d, rest) =>
    if _ : rest.length < s.length then
      let (ds, rest) := readAll rest
      (d :: ds, rest)
    else ([], s)
termination_by s.length

end Definition
end Rubric.Markdown
