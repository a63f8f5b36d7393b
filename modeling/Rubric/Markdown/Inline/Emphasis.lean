import Rubric.Markdown.Inline.Basic

/-!
# Emphasis

Runs of delimiters are matched from left to right: a run that may close is matched with the nearest
open run of the same kind, and takes up as many delimiters as both have.

* `Opener` : a run that is open, with what stands behind it;
* `Emphasis` : the open runs, and what stands in front of them;
* `Emphasis.close` : a run that closes others;
* `Inline.ofFragments` : the parts of a text, with everything unmatched as it is written.
-/

namespace Rubric.Markdown

/-- A run that is open. -/
structure Opener where
  run : DelimiterRun
  /-- How many of its delimiters are not used up. -/
  left : Nat
  /-- What stands behind it, latest first. -/
  content : List Inline := []

namespace Opener

/-- The delimiters that are not used up, as text. -/
def literal (o : Opener) : Inline := .text (List.replicate o.left o.run.char)

/-- The run and what stands behind it, latest first. -/
def plain (o : Opener) : List Inline := o.content ++ [o.literal]

/-- A closing run matches this one. Where either might do both, the lengths must not add up to a
multiple of three, unless each of them is one. Tildes only match as many. -/
def accepts (o : Opener) (r : DelimiterRun) : Bool :=
  o.run.char == r.char && (r.char != '~' || o.run.length == r.length) &&
    (!(r.opens && r.closes) && !(o.run.opens && o.run.closes) ||
      (r.length + o.run.length) % 3 != 0 || r.length % 3 == 0)

end Opener

/-- What has been read of a text. -/
structure Emphasis where
  /-- The open runs, innermost first. -/
  openers : List Opener := []
  /-- What stands in front of them, latest first. -/
  front : List Inline := []

namespace Emphasis

def append (e : Emphasis) (parts : List Inline) : Emphasis :=
  match e.openers with
  | [] => { e with front := parts ++ e.front }
  | o :: rest => { e with openers := { o with content := parts ++ o.content } :: rest }

/-- Text inside a number of delimiters of the same kind on either side. -/
def wrapped : Nat → List Inline → List Inline
  | 0, content => content
  | 1, content => [.emphasis content]
  | n + 2, content => wrapped n [.strong content]

def wrap (char : Char) (n : Nat) (content : List Inline) : List Inline :=
  if char = '~' then [.strikethrough content] else wrapped n content

/-- Gives up the open runs of a character. -/
def giveUp (char : Char) (e : Emphasis) : Emphasis :=
  e.openers.foldr
    (fun o e =>
      if o.run.char = char then e.append o.plain else { e with openers := o :: e.openers })
    { front := e.front }

/-- Matches so many delimiters of a closing run, and tells how many are left. Tildes that find no match
hide the open ones from those that follow. -/
def close (r : DelimiterRun) (left : Nat) (e : Emphasis) : Nat × Emphasis :=
  match e.openers.span fun o => !o.accepts r with
  | (_, []) => (left, if r.char = '~' then e.giveUp r.char else e)
  | (above, o :: below) =>
    let n := min left o.left
    let inside := (above.flatMap Opener.plain ++ o.content).reverse
    let node := wrap r.char n inside
    let e : Emphasis :=
      if o.left ≤ n then append ⟨below, e.front⟩ node
      else ⟨{ o with left := o.left - n, content := node } :: below, e.front⟩
    if _ : 0 < n ∧ n < left then close r (left - n) e else (left - n, e)
termination_by left

def addRun (e : Emphasis) (r : DelimiterRun) : Emphasis :=
  let (left, e) := if r.closes then e.close r r.length else (r.length, e)
  if left = 0 then e
  else if r.opens then { e with openers := ⟨r, left, []⟩ :: e.openers }
  else e.append [.text (List.replicate left r.char)]

def add (e : Emphasis) : Fragment → Emphasis
  | .inline content => e.append [content]
  | .run r => e.addRun r
  | .bracket image _ _ => e.append [.text (if image then ['!', '['] else ['['])]

def finish (e : Emphasis) : List Inline := (e.openers.flatMap Opener.plain ++ e.front).reverse

end Emphasis

def Inline.ofFragments (fragments : List Fragment) : List Inline :=
  (fragments.foldl Emphasis.add {}).finish

end Rubric.Markdown
