import Rubric.Selector

/-!
# References

* `Piece` : a stretch of text: literal characters, or a marker that stands for a label;
* `Piece.scan` : the pieces of a text. A marker is `##`, `##name` or `##\{name\}`, the longest of them
  that is there, and not one behind an odd number of backslashes;
* `RefKey` : what a reference asks for: the label of an element, by its id and a selector;
* `RefTable` : the references that wait for their element, and the labels of those that have it.
-/

namespace Rubric

/-- A stretch of text. -/
inductive Piece where
  | literal (text : List Char)
  /-- A marker, and the selector it names if there is such a one. -/
  | marker (text : List Char) (selector : Option Selector)
deriving DecidableEq

/-- A marker that was read, and what follows it. -/
structure Marker where
  text : List Char
  selector : Option Selector
  rest : List Char
deriving DecidableEq

namespace Marker

def isNameChar (c : Char) : Bool := c.isAlphanum || c == '_' || c == '-'

def named (name text rest : List Char) : Marker :=
  ⟨text, if name.isEmpty then some .any else Selector.parse? (String.ofList name), rest⟩

/-- The marker whose name is closed by a brace, behind the opening one. -/
def braced? (s : List Char) : Option Marker :=
  match s.dropWhile isNameChar with
  | '\x7d' :: rest =>
    let name := s.takeWhile isNameChar
    if name.isEmpty then none
    else some (named name (['#', '#', '\x7b'] ++ name ++ ['\x7d']) rest)
  | _ => none

/-- The marker behind the two number signs. -/
def behindSigns (s : List Char) : Marker :=
  match s with
  | '\x7b' :: r => (braced? r).getD (named [] ['#', '#'] s)
  | _ => named (s.takeWhile isNameChar) (['#', '#'] ++ s.takeWhile isNameChar) (s.dropWhile isNameChar)

def at? : List Char → Option Marker
  | '#' :: '#' :: r => some (behindSigns r)
  | _ => none

theorem append_of_braced? {s : List Char} {m : Marker} (h : braced? s = some m) :
    m.text ++ m.rest = '#' :: '#' :: '\x7b' :: s := by
  unfold braced? at h
  split at h
  · rename_i rest hd
    have hs := List.takeWhile_append_dropWhile (p := isNameChar) (l := s)
    rw [hd] at hs
    simp only at h
    split at h
    · cases h
    · cases h; simp [named, hs]
  · cases h

theorem behindSigns_append (s : List Char) :
    (behindSigns s).text ++ (behindSigns s).rest = '#' :: '#' :: s := by
  unfold behindSigns
  split
  · rename_i r
    cases h : braced? r with
    | none => simp [named]
    | some m => simpa using append_of_braced? h
  · simp [named]

theorem append_of_at? {s : List Char} {m : Marker} (h : at? s = some m) : m.text ++ m.rest = s := by
  unfold at? at h
  split at h
  · cases h; exact behindSigns_append _
  · cases h

theorem text_behindSigns_ne_nil (s : List Char) : (behindSigns s).text ≠ [] := by
  unfold behindSigns
  split
  · rename_i r
    cases h : braced? r with
    | none => simp [named]
    | some m =>
      unfold braced? at h
      split at h
      · simp only at h
        split at h
        · cases h
        · cases h; simp [named]
      · cases h
  · simp [named]

theorem length_rest_of_at? {s : List Char} {m : Marker} (h : at? s = some m) :
    m.rest.length < s.length := by
  have hs := append_of_at? h
  have hne : m.text ≠ [] := by
    unfold at? at h
    split at h
    · cases h; exact text_behindSigns_ne_nil _
    · cases h
  have := List.length_pos_iff.2 hne
  rw [← hs, List.length_append]
  omega

end Marker

namespace Piece

def consLiteral (c : Char) : List Piece → List Piece
  | literal s :: rest => literal (c :: s) :: rest
  | rest => literal [c] :: rest

/-- The number of backslashes in a row behind one more character. -/
def slashesBehind (slashes : Nat) (c : Char) : Nat := if c = '\x5c' then slashes + 1 else 0

/-- The pieces of a text, behind so many backslashes in a row. -/
def scanFrom (slashes : Nat) (s : List Char) : List Piece :=
  match s with
  | [] => []
  | c :: r =>
    match _ : Marker.at? (c :: r) with
    | none => consLiteral c (scanFrom (slashesBehind slashes c) r)
    | some m =>
      if slashes % 2 = 1 then consLiteral c (scanFrom 0 r)
      else marker m.text m.selector :: scanFrom 0 m.rest
termination_by s.length
decreasing_by
  · simp
  · simp
  · rename_i h _
    exact Marker.length_rest_of_at? h

def scan (s : String) : List Piece := scanFrom 0 s.toList

def isMarker : Piece → Bool
  | literal _ => false
  | marker .. => true

def text : Piece → List Char
  | literal s => s
  | marker s _ => s

def selector? : Piece → Option Selector
  | literal _ => none
  | marker _ selector => selector

theorem text_consLiteral (c : Char) (ps : List Piece) :
    (consLiteral c ps).flatMap text = c :: ps.flatMap text := by
  unfold consLiteral; split <;> simp [text]

/-- The pieces of a text are the text. -/
theorem text_scanFrom (slashes : Nat) (s : List Char) : (scanFrom slashes s).flatMap text = s := by
  fun_induction scanFrom slashes s with
  | case1 => rfl
  | case2 _ c r h ih => rw [text_consLiteral, ih]
  | case3 _ c r m h _ ih => rw [text_consLiteral, ih]
  | case4 _ c r m h _ ih => simp [text, ih, Marker.append_of_at? h]

end Piece

/-! ## Waiting and filled references -/

/-- What a reference asks for: a label of the element with an id. -/
structure RefKey where
  target : String
  selector : Selector
deriving DecidableEq

/-- The references of a document by what they ask for. -/
structure RefTable where
  /-- Those that wait for their element. -/
  pending : List RefKey := []
  /-- Those that have it, with the label they show. -/
  filled : List (RefKey × String) := []
deriving DecidableEq

namespace RefTable

/-- The label of a reference that has its element. -/
def label? (t : RefTable) (key : RefKey) : Option String := t.filled.lookup key

def knows (t : RefTable) (key : RefKey) : Bool := t.pending.contains key || (t.label? key).isSome

def await (t : RefTable) (key : RefKey) : RefTable :=
  if t.knows key then t else { t with pending := t.pending ++ [key] }

/-- Gives the references to an element the labels that can be looked up. The others go on waiting,
for another element with the same id. -/
def resolve (t : RefTable) (target : String) (label? : Selector → Option String) : RefTable :=
  let ready key := if key.target = target then label? key.selector else none
  { pending := t.pending.filter fun key => (ready key).isNone
    filled := t.filled ++ t.pending.filterMap fun key => (ready key).map (key, ·) }

end RefTable
end Rubric
