/-!
# TOML strings

A string stands between double quotes, where backslashes begin escapes, or between single quotes, where
every character is plain. Quotes that are written three times enclose a block of lines.

* `readEscape` : the character that an escape stands for;
* `readLine`, `readBlock` : the rest of a string on one line, and of a block;
* `readString` : a string of any kind;
* `Form.of s`, `Form.write`, `quote s` : the form in which a text is written, and the written text.
-/

namespace Rubric.Toml

/-! ## Characters -/

def isSpace (c : Char) : Bool := c == ' ' || c == '\t'

/-- Control characters cannot be written as they are. -/
def isControl (c : Char) : Bool := c.toNat < 0x20 || c.toNat == 0x7F

/-- What may stand in a line: all but the control characters other than the tab. -/
def isPlain (c : Char) : Bool := c == '\t' || !isControl c

/-- What follows the end of a line, if that is what comes next. -/
def afterNewline? : List Char → Option (List Char)
  | '\n' :: r => some r
  | '\r' :: '\n' :: r => some r
  | _ => none

/-- A text from its first line with something else than blanks on. -/
def skipLines : List Char → List Char
  | '\r' :: '\n' :: r => skipLines r
  | c :: r => if isSpace c || c == '\n' then skipLines r else c :: r
  | [] => []

theorem length_skipLines_le (s : List Char) : (skipLines s).length ≤ s.length := by
  fun_induction skipLines s <;> grind

/-! ## Escapes -/

def hexValue? (c : Char) : Option Nat :=
  if c.isDigit then some (c.toNat - '0'.toNat)
  else if 'a' ≤ c ∧ c ≤ 'f' then some (c.toNat - 'a'.toNat + 10)
  else if 'A' ≤ c ∧ c ≤ 'F' then some (c.toNat - 'A'.toNat + 10)
  else none

def hexNumber? (digits : List Char) : Option Nat :=
  digits.foldlM (fun n c => (hexValue? c).map (16 * n + ·)) 0

/-- The character whose code the next digits write. -/
def readCode (count : Nat) (s : List Char) : Option (Char × List Char) :=
  if s.length < count then none
  else
    match hexNumber? (s.take count) with
    | some n => if n.isValidChar then some (Char.ofNat n, s.drop count) else none
    | none => none

/-- The character that an escape stands for. The backslash has been read. -/
def readEscape : List Char → Option (Char × List Char)
  | [] => none
  | c :: r =>
    if c = 'b' then some ('\x08', r)
    else if c = 't' then some ('\t', r)
    else if c = 'n' then some ('\n', r)
    else if c = 'f' then some ('\x0c', r)
    else if c = 'r' then some ('\r', r)
    else if c = '\x22' ∨ c = '\x5c' then some (c, r)
    else if c = 'u' then readCode 4 r
    else if c = 'U' then readCode 8 r
    else none

/-! ## Reading -/

/-- The two kinds of quotes. -/
inductive Quote where
  /-- Double quotes, with escapes. -/
  | double
  /-- Single quotes, without escapes. -/
  | single
deriving DecidableEq

def Quote.char : Quote → Char
  | double => '\x22'
  | single => '\x27'

/-- The rest of a string on one line, and what follows it. -/
def readLine (q : Quote) : List Char → Option (List Char × List Char)
  | [] => none
  | c :: r =>
    if c = q.char then some ([], r)
    else if q = .double ∧ c = '\x5c' then
      match readEscape r with
      | none => none
      | some (d, rest) =>
        if _ : rest.length ≤ r.length then
          (readLine q rest).map fun (s, rest) => (d :: s, rest)
        else none
    else if isPlain c then (readLine q r).map fun (s, rest) => (c :: s, rest)
    else none
termination_by s => s.length

/-- The rest of a block, and what follows it. Up to two quotes may stand right in front of the three
that close it. A backslash at the end of a line hides the blanks and line ends behind it. -/
def readBlock (q : Quote) : List Char → Option (List Char × List Char)
  | [] => none
  | c :: r =>
    if c = q.char then
      let more := (r.takeWhile (· == q.char)).length
      if more < 2 then
        (readBlock q (r.drop more)).map fun (s, rest) => (List.replicate (more + 1) c ++ s, rest)
      else if more ≤ 4 then some (List.replicate (more - 2) c, r.drop more)
      else none
    else if q = .double ∧ c = '\x5c' then
      match afterNewline? (r.dropWhile isSpace) with
      | some rest =>
        if _ : rest.length ≤ r.length then readBlock q (skipLines rest) else none
      | none =>
        match readEscape r with
        | none => none
        | some (d, rest) =>
          if _ : rest.length ≤ r.length then
            (readBlock q rest).map fun (s, rest) => (d :: s, rest)
          else none
    else if isPlain c then (readBlock q r).map fun (s, rest) => (c :: s, rest)
    else
      match afterNewline? (c :: r) with
      | some rest =>
        if _ : rest.length ≤ r.length then
          (readBlock q rest).map fun (s, rest) => ('\n' :: s, rest)
        else none
      | none => none
termination_by s => s.length
decreasing_by
  all_goals simp only [List.length_cons, List.length_drop]
  all_goals try have := length_skipLines_le rest
  all_goals omega

def quoteOf? (c : Char) : Option Quote :=
  if c = '\x22' then some .double else if c = '\x27' then some .single else none

/-- A string on one line, and what follows it. -/
def readLineString : List Char → Option (List Char × List Char)
  | [] => none
  | c :: r =>
    match quoteOf? c with
    | none => none
    | some q => readLine q r

/-- A string of any kind, and what follows it. A block begins behind the line end that follows its
quotes at once. -/
def readString : List Char → Option (List Char × List Char)
  | [] => none
  | c :: r =>
    match quoteOf? c with
    | none => none
    | some q =>
      if r.take 2 = [c, c] then readBlock q ((afterNewline? (r.drop 2)).getD (r.drop 2))
      else readLine q r

/-! ## Writing -/

def hexDigit (n : Nat) : Char := Nat.digitChar n |>.toUpper

/-- A character between double quotes. -/
def escapeChar (c : Char) : List Char :=
  if c = '\x08' then ['\x5c', 'b']
  else if c = '\t' then ['\x5c', 't']
  else if c = '\n' then ['\x5c', 'n']
  else if c = '\x0c' then ['\x5c', 'f']
  else if c = '\r' then ['\x5c', 'r']
  else if c = '\x22' ∨ c = '\x5c' then ['\x5c', c]
  else if isControl c then
    ['\x5c', 'u', '0', '0', hexDigit (c.toNat / 16), hexDigit (c.toNat % 16)]
  else [c]

/-- The characters of a block between double quotes, where some quotes stand in front. The third
quote in a row is escaped. -/
def escapeBlock (quotes : Nat) : List Char → List Char
  | [] => []
  | c :: r =>
    if c = '\x22' then
      if quotes = 2 then '\x5c' :: c :: escapeBlock 0 r else c :: escapeBlock (quotes + 1) r
    else if c = '\n' then c :: escapeBlock 0 r
    else escapeChar c ++ escapeBlock 0 r

/-- The most quotes in a row, where some quotes stand in front. -/
def longestRun (q : Char) (quotes : Nat) : List Char → Nat
  | [] => quotes
  | c :: r => if c = q then longestRun q (quotes + 1) r else max quotes (longestRun q 0 r)

/-- How a string is written. -/
structure Form where
  quote : Quote
  /-- As a block of lines. -/
  block : Bool
deriving DecidableEq

namespace Form

/-- The form of a text: on one line if there are no line ends in it, and without escapes if that is
possible. Tabs need none. -/
def of (s : List Char) : Form :=
  let escapes := s.any fun c => isControl c && c != '\t' && c != '\n'
  let lines := s.contains '\n'
  let backslash := s.contains '\x5c'
  if !escapes && !backslash && !s.contains '\x22' && !lines then ⟨.double, false⟩
  else if !escapes && !s.contains '\x27' && !lines then ⟨.single, false⟩
  else if !escapes && !backslash && longestRun '\x22' 0 s ≤ 2 then ⟨.double, true⟩
  else if !escapes && longestRun '\x27' 0 s ≤ 2 then ⟨.single, true⟩
  else ⟨.double, lines⟩

/-- A text in a form. A block with line ends begins on a line of its own. -/
def write (f : Form) (s : List Char) : List Char :=
  let marks := List.replicate (if f.block then 3 else 1) f.quote.char
  let start := if f.block && s.contains '\n' then ['\n'] else []
  let content :=
    match f.quote, f.block with
    | .single, _ => s
    | .double, false => s.flatMap escapeChar
    | .double, true => escapeBlock 0 s
  marks ++ start ++ content ++ marks

end Form

def quote (s : String) : String := String.ofList ((Form.of s.toList).write s.toList)

end Rubric.Toml
