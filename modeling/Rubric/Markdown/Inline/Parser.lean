import Rubric.Markdown.Inline.Emphasis
import Rubric.Markdown.RawHtml

/-!
# Reading text with markup

* `readCode?` : a code span behind its opening backticks;
* `readAutolink?` : an address in angle brackets;
* `closeBracket` : what a closing bracket makes of the text since the opening one;
* `Inline.ofText` : the parts of the text of a paragraph or heading.
-/

namespace Rubric.Markdown

/-! ## Code -/

/-- The text up to the next run of exactly so many backticks, and what follows that. The number of
backticks in a row just read comes first. -/
def codeBody? (length : Nat) : Nat → List Char → Option (List Char × List Char)
  | run, [] => if run = length then some ([], []) else none
  | run, c :: r =>
    if c = '\x60' then (codeBody? length (run + 1) r).map fun (s, rest) => (c :: s, rest)
    else if run = length then some ([], c :: r)
    else (codeBody? length 0 r).map fun (s, rest) => (c :: s, rest)

/-- Code without the blank at either end that sets it apart from backticks. -/
def trimCode (s : List Char) : List Char :=
  let s := s.map fun c => if c = '\n' then ' ' else c
  match s with
  | ' ' :: r => if r.getLast? = some ' ' ∧ !s.all (· == ' ') then r.dropLast else s
  | _ => s

/-- The code behind so many opening backticks, and what follows the closing ones. -/
def readCode? (length : Nat) (s : List Char) : Option (List Char × List Char) :=
  (codeBody? length 0 s).map fun (body, rest) => (trimCode (body.take (body.length - length)), rest)

/-! ## Addresses -/

def isSchemeChar (c : Char) : Bool := c.isAlphanum || c == '.' || c == '-' || c == '+'

/-- An address with a scheme. -/
def isUri (s : List Char) : Bool :=
  let scheme := s.takeWhile isSchemeChar
  (s.head?.any Char.isAlpha) && 2 ≤ scheme.length && scheme.length ≤ 32 &&
    (s.dropWhile isSchemeChar).head? == some ':' && s.all fun c => c.toNat > 32 && c != '<'

/-- The marks that may stand in front of the at sign. -/
def mailboxMarks : List Char := ".!#$%&'*+/=?^_\x60\x7b|\x7d~-".toList

def isHostLabel (s : List Char) : Bool :=
  1 ≤ s.length && s.length ≤ 63 && s.all (fun c => c.isAlphanum || c == '-') &&
    s.head? != some '-' && s.getLast? != some '-'

/-- An address of electronic mail. -/
def isMailbox (s : List Char) : Bool :=
  let isMark c := c.isAlphanum || mailboxMarks.contains c
  let name := s.takeWhile isMark
  match s.dropWhile isMark with
  | '@' :: host => !name.isEmpty && (host.splitOn '.').all isHostLabel
  | _ => false

/-- The address up to the closing angle bracket, and what follows it. -/
def readAutolink? (s : List Char) : Option (List Char × List Char) :=
  let address := s.takeWhile (· != '>')
  match s.dropWhile (· != '>') with
  | '>' :: rest => if isUri address || isMailbox address then some (address, rest) else none
  | _ => none

/-! ## Brackets -/

/-- Fragments so far, latest first, and the text that follows. -/
abbrev Reading := List Fragment × List Char

def literally (done : List Fragment) (s rest : List Char) : Reading :=
  (.inline (.text s) :: done, rest)

def Fragment.isBracket : Fragment → Bool
  | bracket .. => true
  | _ => false

/-- No link can begin any more: links do not hold others. -/
def Fragment.deactivate : Fragment → Fragment
  | bracket false _ behind => bracket false false behind
  | f => f

/-- The target of the text between brackets, by what follows or by its own words as a label. -/
def findTarget? (definitions : Definitions) (behind rest : List Char) :
    Option (LinkTarget × List Char) :=
  let own :=
    match readLabel? ('[' :: behind) with
    | some (label, r) => if r.length = rest.length then definitions.find? label else none
    | none => none
  match LinkTarget.readInline? rest with
  | some found => some found
  | none =>
    match rest with
    | '[' :: ']' :: r => own.map (·, r)
    | _ =>
      match readLabel? rest with
      | some (label, r) => (definitions.find? label).map (·, r)
      | none => own.map (·, rest)

/-- A closing bracket: it makes a link or an image of the text since the opening one, or is text. -/
def closeBracket (definitions : Definitions) (done : List Fragment) (rest : List Char) : Reading :=
  match done.span fun f => !f.isBracket with
  | (inside, .bracket image active behind :: below) =>
    match if active then findTarget? definitions behind rest else none with
    | some (target, rest) =>
      let content := Inline.ofFragments inside.reverse
      if image then (.inline (.image target content) :: below, rest)
      else (.inline (.link target content) :: below.map Fragment.deactivate, rest)
    | none =>
      literally (inside ++ .inline (.text (if image then ['!', '['] else ['['])) :: below) [']'] rest
  | _ => literally done [']'] rest

/-! ## The text -/

def isSpecial (c : Char) : Bool :=
  isGap c || c == '\x5c' || c == '\x60' || c == '*' || c == '_' || c == '~' || c == '[' || c == ']' ||
    c == '!' || c == '<' || c == '&'

/-- The end of a line, hard or soft. At the end of the text it means nothing. -/
def readBreak (done : List Fragment) (kind : Inline) (rest : List Char) : Reading :=
  let rest := dropSpaces rest
  (if rest.isEmpty then done else .inline kind :: done, rest)

/-- Blanks. Two or more at the end of a line make a hard break. -/
def readSpaces (done : List Fragment) (s : List Char) : Reading :=
  let spaces := s.takeWhile isSpace
  match s.dropWhile isSpace with
  | '\n' :: rest =>
    if 2 ≤ spaces.length then readBreak done .hardBreak rest
    else readBreak (.inline (.text spaces) :: done) .softBreak rest
  | rest => literally done spaces rest

/-- A backslash, which takes the meaning off the next character. -/
def readEscape (done : List Fragment) (rest : List Char) : Reading :=
  match rest with
  | '\n' :: r =>
    if r.all isSpace then literally done ['\x5c'] rest else readBreak done .hardBreak r
  | c :: r => if Text.isAsciiPunctuation c then literally done [c] r else literally done ['\x5c'] rest
  | [] => literally done ['\x5c'] rest

def readBackticks (done : List Fragment) (s : List Char) : Reading :=
  let rest := s.dropWhile (· == '\x60')
  let length := s.length - rest.length
  match readCode? length rest with
  | some (code, rest) => (.inline (.code code) :: done, rest)
  | none => literally done (List.replicate length '\x60') rest

def readRun (done : List Fragment) (previous c : Char) (s : List Char) : Reading :=
  let rest := s.dropWhile (· == c)
  let length := s.length - rest.length
  let run := DelimiterRun.between c length previous (rest.head?.getD '\n')
  if run.isActive then (.run run :: done, rest) else literally done (List.replicate length c) rest

/-- An angle bracket, behind which there may be an address or a tag. -/
def readAngle (done : List Fragment) (rest : List Char) : Reading :=
  match readAutolink? rest with
  | some (address, r) =>
    (.inline (.link ⟨String.ofList address, ""⟩ [.text address]) :: done, r)
  | none =>
    match readRawHtml? rest with
    | some r => (.inline (.html ('<' :: rest.take (rest.length - r.length))) :: done, r)
    | none => literally done ['<'] rest

/-- An ampersand, behind which there may be the name or number of a character. -/
def readAmpersand (done : List Fragment) (rest : List Char) : Reading :=
  match readEntity? rest with
  | some (chars, r) => literally done chars r
  | none => literally done ['&'] rest

/-- Reads a little of a text that begins with a character. -/
def readFragment (definitions : Definitions) (done : List Fragment) (previous c : Char)
    (r : List Char) : Reading :=
  if c = '\x5c' then readEscape done r
  else if c = '\x60' then readBackticks done (c :: r)
  else if c = '*' ∨ c = '_' ∨ c = '~' then readRun done previous c (c :: r)
  else if c = '[' then (.bracket false true r :: done, r)
  else if c = '!' ∧ r.head? = some '[' then (.bracket true true r.tail :: done, r.tail)
  else if c = ']' then closeBracket definitions done r
  else if c = '<' then readAngle done r
  else if c = '&' then readAmpersand done r
  else if c = '\n' then readBreak done .softBreak r
  else if isSpace c then readSpaces done (c :: r)
  else literally done (c :: r.takeWhile (!isSpecial ·)) (r.dropWhile (!isSpecial ·))

def readText (definitions : Definitions) (done : List Fragment) (previous : Char) (s : List Char) :
    List Fragment :=
  match s with
  | [] => done
  | c :: r =>
    let (done, rest) := readFragment definitions done previous c r
    if _ : rest.length ≤ r.length then
      readText definitions done (((c :: r).take (r.length + 1 - rest.length)).getLastD previous) rest
    else done
termination_by s.length
decreasing_by simp only [List.length_cons]; omega

def Inline.ofText (definitions : Definitions) (s : List Char) : List Inline :=
  ofFragments (readText definitions [] '\n' s).reverse

end Rubric.Markdown
