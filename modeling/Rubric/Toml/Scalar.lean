import Rubric.Toml.Value

/-!
# TOML numbers and times

* `integer?` : decimal integers with a sign or not, and hexadecimal, octal and binary ones. Single
  underscores may stand between digits;
* `isFloat` : decimal numbers with a fraction, an exponent or both, infinity, and no number;
* `isTime` : dates, times of day, and both together, with an offset or not;
* `scalar?` : the value that a word writes;
* `readScalar` : the value at the beginning of a text.
-/

namespace Rubric.Toml

/-! ## Integers -/

def isDigitOf (base : Nat) (c : Char) : Bool :=
  if base = 16 then c.isDigit || ('a' ≤ c && c ≤ 'f') || ('A' ≤ c && c ≤ 'F')
  else '0' ≤ c && c.toNat < '0'.toNat + base

def digitValue (c : Char) : Nat :=
  if c.isDigit then c.toNat - '0'.toNat else c.toLower.toNat - 'a'.toNat + 10

/-- The digits of a number without the underscores between them. -/
def digits? (base : Nat) : List Char → Option (List Char)
  | [] => none
  | [c] => if isDigitOf base c then some [c] else none
  | c :: d :: r =>
    if !isDigitOf base c then none
    else if d = '_' then (digits? base r).map (c :: ·)
    else (digits? base (d :: r)).map (c :: ·)

def ofDigits (base : Nat) (digits : List Char) : Nat :=
  digits.foldl (fun n c => base * n + digitValue c) 0

/-- A number in decimal digits, without zeros in front. -/
def decimal? (s : List Char) : Option Nat :=
  (digits? 10 s).bind fun digits =>
    if 1 < digits.length ∧ digits.head? = some '0' then none else some (ofDigits 10 digits)

/-- A sign, if there is one, and the rest. -/
def cutSign : List Char → Bool × List Char
  | '-' :: r => (true, r)
  | '+' :: r => (false, r)
  | s => (false, s)

def natural? (base : Nat) (s : List Char) : Option Int :=
  (digits? base s).map fun digits => (ofDigits base digits : Int)

def inBounds (n : Int) : Bool := -n ≤ Nat.pow 2 127 && n < Nat.pow 2 128

/-- The integer that a word writes. -/
def integer? (s : List Char) : Option Int :=
  Option.filter inBounds <|
    match s with
    | '0' :: 'x' :: r => natural? 16 r
    | '0' :: 'o' :: r => natural? 8 r
    | '0' :: 'b' :: r => natural? 2 r
    | _ =>
      let (negative, r) := cutSign s
      (decimal? r).map fun n => if negative then -(n : Int) else n

/-! ## Floating point -/

def cutAt (stop : Char → Bool) : List Char → List Char × Option (List Char)
  | [] => ([], none)
  | c :: r =>
    if stop c then ([], some r)
    else
      let (before, after) := cutAt stop r
      (c :: before, after)

/-- A word writes a floating point number. -/
def isFloat (s : List Char) : Bool :=
  let r := (cutSign s).2
  let (mantissa, exponent) := cutAt (fun c => c == 'e' || c == 'E') r
  let (whole, fraction) := cutAt (· == '.') mantissa
  r == "inf".toList || r == "nan".toList ||
    ((fraction.isSome || exponent.isSome) && (decimal? whole).isSome &&
      fraction.all (fun t => (digits? 10 t).isSome) &&
      exponent.all (fun t => (digits? 10 (cutSign t).2).isSome))

/-! ## Dates and times -/

/-- The number that the next digits write. -/
def readCount (count : Nat) (s : List Char) : Option (Nat × List Char) :=
  let digits := s.take count
  if digits.length = count ∧ digits.all Char.isDigit then some (ofDigits 10 digits, s.drop count)
  else none

/-- What follows a character. -/
def readMark (mark : Char) : List Char → Option (List Char)
  | [] => none
  | c :: r => if c = mark then some r else none

def daysOf (year month : Nat) : Nat :=
  if month = 2 then
    if year % 4 = 0 ∧ (year % 100 ≠ 0 ∨ year % 400 = 0) then 29 else 28
  else if month = 4 ∨ month = 6 ∨ month = 9 ∨ month = 11 then 30
  else 31

def readDate (s : List Char) : Option (List Char) := do
  let (year, s) ← readCount 4 s
  let (month, s) ← readCount 2 (← readMark '-' s)
  let (day, s) ← readCount 2 (← readMark '-' s)
  if 1 ≤ month ∧ month ≤ 12 ∧ 1 ≤ day ∧ day ≤ daysOf year month then some s else none

/-- What follows a time of day. A minute may have a leap second. -/
def readClock (s : List Char) : Option (List Char) := do
  let (hour, s) ← readCount 2 s
  let (minute, s) ← readCount 2 (← readMark ':' s)
  let (second, s) ← readCount 2 (← readMark ':' s)
  if 23 < hour ∨ 59 < minute ∨ 60 < second then none
  else
    match readMark '.' s with
    | none => some s
    | some fraction =>
      if fraction.head?.any Char.isDigit then some (fraction.dropWhile Char.isDigit) else none

/-- A distance from universal time. -/
def isOffset (s : List Char) : Bool :=
  s == ['Z'] || s == ['z'] ||
    ((readMark '+' s <|> readMark '-' s).bind fun s => do
      let (hour, s) ← readCount 2 s
      let (minute, s) ← readCount 2 (← readMark ':' s)
      if hour ≤ 23 ∧ minute ≤ 59 ∧ s = [] then some () else none).isSome

/-- A word writes a date, a time of day, or both. -/
def isTime (s : List Char) : Bool :=
  match readDate s with
  | some [] => true
  | some (c :: r) =>
    (c == 'T' || c == 't' || c == ' ') && (readClock r).any fun rest => rest.isEmpty || isOffset rest
  | none => (readClock s).any List.isEmpty

/-! ## Words -/

/-- The value that a word writes. -/
def scalar? (s : List Char) : Option Value :=
  if s = "true".toList then some (.boolean true)
  else if s = "false".toList then some (.boolean false)
  else
    match integer? s with
    | some n => some (.integer n)
    | none =>
      if isFloat s then some (.float (String.ofList s))
      else if isTime s then some (.time (String.ofList s))
      else none

/-- What may follow a value. -/
def endsWord (c : Char) : Bool :=
  c == ' ' || c == '\t' || c == '\n' || c == '\r' || c == '#' || c == ',' || c == ']' || c == '\x7d'

/-- A word and what follows it. A blank between a date and a time of day belongs to it. -/
def readWord (s : List Char) : List Char × List Char :=
  let (word, rest) := s.span fun c => !endsWord c
  match rest with
  | ' ' :: d :: r =>
    if d.isDigit ∧ readDate word = some [] then
      let (clock, rest) := (d :: r).span fun c => !endsWord c
      (word ++ ' ' :: clock, rest)
    else (word, rest)
  | _ => (word, rest)

def readScalar (s : List Char) : Option (Value × List Char) :=
  let (word, rest) := readWord s
  (scalar? word).map (·, rest)

end Rubric.Toml
