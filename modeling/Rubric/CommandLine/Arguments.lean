import Rubric.Files.Path

/-!
# Command line arguments

* `Slot` : what takes a value, the file and the options; `Switch` : the options without one;
* `UsageError` : why arguments are refused;
* `Reading` : what has been read. The last value is looked at when the next argument that has a meaning
  of its own comes, or at the end;
* `Arguments.read` : what the arguments ask for.
-/

namespace Rubric

/-- What the arguments ask for. -/
structure Arguments where
  /-- The file to label. -/
  file : Path
  /-- The configuration file, in the place of the usual one. -/
  config : Option Path := none
  /-- Lists are labelled by a stylesheet. -/
  css : Bool := false
  headingLabels : Option String := none
  headingLevel : Option Nat := none
  orderedLabels : Option String := none
  unorderedLabels : Option String := none
  /-- The file for the stylesheet. -/
  stylesheet : Option Path := none
deriving DecidableEq

namespace CommandLine

/-- What takes a value. -/
inductive Slot where
  | file
  | config
  | headingLabels
  | headingLevel
  | orderedLabels
  | unorderedLabels
  | stylesheet
deriving DecidableEq

/-- The options that take no value. -/
inductive Switch where
  | css
  | help
deriving DecidableEq

/-- The options. -/
inductive NamedOption where
  | slot (s : Slot)
  | switch (s : Switch)
deriving DecidableEq

/-- Why arguments are refused. -/
inductive UsageError where
  /-- No file is named. -/
  | missingFile
  /-- An option that there is not, or a second file. -/
  | unknownArgument
  /-- An option without its value, or a path without a name. -/
  | missingValue
  /-- A value that the option does not take. -/
  | refusedValue
  /-- A value for an option that takes none. -/
  | unexpectedValue
  /-- An option that is given twice. -/
  | repeatedOption
  /-- A request for help, which ends the reading. -/
  | help
deriving DecidableEq

def optionOf? (name : String) : Option NamedOption :=
  match name with
  | "config" => some (.slot .config)
  | "h-labels" => some (.slot .headingLabels)
  | "h-level" => some (.slot .headingLevel)
  | "ol-labels" => some (.slot .orderedLabels)
  | "ul-labels" => some (.slot .unorderedLabels)
  | "stylesheet" => some (.slot .stylesheet)
  | "css" => some (.switch .css)
  | "help" => some (.switch .help)
  | _ => none

/-! ## Values -/

/-- The heading level that a text names: an integer from 1 to 6, with a plus sign or not. -/
def level? (s : String) : Option Nat :=
  let digits :=
    match s.toList with
    | '+' :: r => r
    | r => r
  if digits.isEmpty || !digits.all Char.isDigit then none
  else
    let n := digits.foldl (fun n c => 10 * n + (c.toNat - '0'.toNat)) 0
    if 1 ≤ n ∧ n ≤ 6 then some n else none

/-- Why a slot does not take a value, if it does not. -/
def Slot.objection? (slot : Slot) (value : String) : Option UsageError :=
  match slot with
  | .file | .config | .stylesheet => if value.isEmpty then some .missingValue else none
  | .headingLevel => if (level? value).isSome then none else some .refusedValue
  | .headingLabels | .orderedLabels | .unorderedLabels => none

/-! ## Reading -/

/-- How an argument looks. -/
inductive Word where
  /-- Two hyphens: all that follows is plain. -/
  | stop
  /-- A name after two hyphens, and the value behind an equals sign. -/
  | long (name : String) (value : Option String)
  /-- Letters after one hyphen, of which the first is given. -/
  | short (letter : Char)
  | plain
deriving DecidableEq

/-- The name and the value of a long option. -/
def cutValue (s : List Char) : String × Option String :=
  match s.dropWhile (· != '=') with
  | [] => (String.ofList s, none)
  | _ :: value => (String.ofList (s.takeWhile (· != '=')), some (String.ofList value))

/-- How an argument looks. A single hyphen is plain. -/
def Word.ofText (s : String) : Word :=
  match s.toList with
  | ['-', '-'] => stop
  | '-' :: '-' :: r => long (cutValue r).1 (cutValue r).2
  | '-' :: c :: _ => short c
  | _ => plain

/-- What has been read. -/
structure Reading where
  values : List (Slot × String) := []
  css : Bool := false
  /-- The last slot that has been named, and its value as soon as it is there. -/
  pending : Option (Slot × Option String) := none
  /-- Two hyphens have been read. -/
  plainOnly : Bool := false

namespace Reading

def give (r : Reading) (slot : Slot) (value : String) : Except UsageError Reading :=
  if (r.values.lookup slot).isSome then .error .repeatedOption
  else
    match slot.objection? value with
    | some e => .error e
    | none => .ok { r with values := (slot, value) :: r.values, pending := none }

def settle (r : Reading) : Except UsageError Reading :=
  match r.pending with
  | none => .ok r
  | some (_, none) => .error .missingValue
  | some (slot, some value) => r.give slot value

def hasFile (r : Reading) : Bool :=
  (r.values.lookup .file).isSome || r.pending.any (·.1 == .file)

def addFile (r : Reading) (name : String) : Except UsageError Reading :=
  if r.hasFile then .error .unknownArgument
  else r.settle.map fun r => { r with pending := some (.file, some name) }

def addSwitch (r : Reading) (s : Switch) : Except UsageError Reading := do
  let r ← r.settle
  match s with
  | .help => .error .help
  | .css => if r.css then .error .repeatedOption else .ok { r with css := true }

def addOption (r : Reading) (name : String) (value : Option String) :
    Except UsageError Reading :=
  match optionOf? name, value with
  | none, _ => .error .unknownArgument
  | some (.switch _), some _ => .error .unexpectedValue
  | some (.switch s), none => r.addSwitch s
  | some (.slot slot), some value => r.settle.bind fun r => r.give slot value
  | some (.slot slot), none => r.settle.map fun r => { r with pending := some (slot, none) }

def add (r : Reading) (s : String) : Except UsageError Reading :=
  if r.plainOnly then r.addFile s
  else
    match Word.ofText s with
    | .stop => .ok { r with plainOnly := true }
    | .long name value => r.addOption name value
    | .short letter => if letter = 'h' then r.addSwitch .help else .error .unknownArgument
    | .plain =>
      match r.pending with
      | some (slot, none) => .ok { r with pending := some (slot, some s) }
      | _ => r.addFile s

def finish (r : Reading) : Except UsageError Arguments :=
  match r.values.lookup .file with
  | none => .error .missingFile
  | some file =>
    .ok
      { file := ⟨file⟩
        config := (r.values.lookup .config).map Path.mk
        css := r.css
        headingLabels := r.values.lookup .headingLabels
        headingLevel := (r.values.lookup .headingLevel).bind level?
        orderedLabels := r.values.lookup .orderedLabels
        unorderedLabels := r.values.lookup .unorderedLabels
        stylesheet := (r.values.lookup .stylesheet).map Path.mk }

end Reading
end CommandLine

def Arguments.read (arguments : List String) : Except CommandLine.UsageError Arguments := do
  let r ← arguments.foldlM CommandLine.Reading.add {}
  (← r.settle).finish

end Rubric
