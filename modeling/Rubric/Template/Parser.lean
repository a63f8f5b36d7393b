import Rubric.Counter.Registry
import Rubric.Template.Basic
import Rubric.Template.Cursor
import Rubric.Template.Error
import Rubric.Text.Blank

/-!
# Reading templates

A segment is literal text, then a counter style with an optional marker in front and literal text
behind. Every character but ASCII letters, digits, commas and quotes is literal; between quotes every
character is, and a quote that is written twice stands for itself. Segments are separated by commas,
and a last segment `*` repeats the one before it.

* `readLiteral` : literal text;
* `readName` : letters and digits in groups that single hyphens join;
* `readCounter` : a marker with a separator, and the name of a counter style;
* `readSegment`, `readSegments` : one segment, and all of them;
* `Template.parse` : the template of a source text.
-/

namespace Rubric
namespace Template

def isQuote (c : Char) : Bool := c == '\x22' || c == '\x27'

/-- Characters that stand for themselves outside quotes. -/
def isLiteral (c : Char) : Bool := !(c.isAlphanum || c == ',' || isQuote c)

/-! ## Literal text -/

mutual
/-- Literal text, as far as it goes. -/
def readLiteral (pos : Nat) : List Char → Except TemplateFault (List Char × Cursor)
  | [] => .ok ([], ⟨pos, []⟩)
  | c :: r =>
    if isQuote c then readQuoted ⟨pos, c :: r⟩ c (pos + 1) r
    else if isLiteral c then (readLiteral (pos + 1) r).map fun (s, d) => (c :: s, d)
    else .ok ([], ⟨pos, c :: r⟩)

/-- The rest of a quoted literal that began at `opened`, and the literal text behind it. -/
def readQuoted (opened : Cursor) (quote : Char) (pos : Nat) :
    List Char → Except TemplateFault (List Char × Cursor)
  | [] => .error (.malformed opened.pos (String.ofList opened.rest) .closingQuote)
  | [c] =>
    if c = quote then .ok ([], ⟨pos + 1, []⟩)
    else .error (.malformed opened.pos (String.ofList opened.rest) .closingQuote)
  | c :: d :: r =>
    if c = quote then
      if d = quote then (readQuoted opened quote (pos + 2) r).map fun (s, e) => (c :: s, e)
      else readLiteral (pos + 1) (d :: r)
    else (readQuoted opened quote (pos + 1) (d :: r)).map fun (s, e) => (c :: s, e)
end

/-! ## Names and markers -/

/-- The rest of a name of which something has been read, and what follows it. -/
def readNameTail : List Char → List Char × List Char
  | [] => ([], [])
  | c :: r =>
    if c.isAlphanum || (c == '-' && r.head?.any Char.isAlphanum) then
      let (name, rest) := readNameTail r
      (c :: name, rest)
    else ([], c :: r)

/-- A name, or nothing where none begins, and what follows it. -/
def readName (s : List Char) : List Char × List Char :=
  if s.head?.any Char.isAlphanum then readNameTail s else ([], s)

/-- The selectors that can be read at a place, the longer reading first, with their lengths. -/
def markersAt (s : List Char) : List (Selector × Nat) :=
  [2, 1].filterMap fun n =>
    if n ≤ s.length then (Selector.parse? (String.ofList (s.take n))).map (·, n) else none

/-- A numeral with an outer label in front of it or not, and the place behind it. -/
structure Counter where
  parent : Option Selector
  separator : List Char
  style : CounterStyle
  behind : Cursor

/-- Takes the first marker that a known name follows, and no marker if there is none. An unknown
name is reported where the first non-empty separator ends, or else at the beginning. -/
def readCounter (c : Cursor) (unknown : Option (Nat × String)) :
    List (Selector × Nat) → Except TemplateFault Counter
  | [] =>
    let (name, rest) := readName c.rest
    match Registry.find? (String.ofList name) with
    | some style => .ok ⟨none, [], style, ⟨c.pos + name.length, rest⟩⟩
    | none =>
      let (offset, name) := unknown.getD (c.pos, String.ofList name)
      .error (.unknownStyle offset name)
  | (selector, n) :: markers =>
    match readLiteral (c.pos + n) (c.rest.drop n) with
    | .error fault => .error fault
    | .ok (separator, d) =>
      let (name, rest) := readName d.rest
      match Registry.find? (String.ofList name) with
      | some style => .ok ⟨some selector, separator, style, ⟨d.pos + name.length, rest⟩⟩
      | none =>
        if name.isEmpty || separator.isEmpty then readCounter c unknown markers
        else readCounter c (unknown <|> some (d.pos, String.ofList name)) markers

/-! ## Segments -/

/-- A segment that begins with the given literal text. -/
def readNumeral (before : List Char) (c : Cursor) : Except TemplateFault (Segment × Cursor) :=
  match readCounter c none (markersAt c.rest) with
  | .error fault => .error fault
  | .ok n =>
    (readLiteral n.behind.pos n.behind.rest).map fun (after, d) =>
      ({ before := String.ofList before, separator := String.ofList n.separator,
         after := String.ofList after, parent := n.parent, style := some n.style }, d)

/-- One segment. White space in front of it is skipped. -/
def readSegment (c : Cursor) : Except TemplateFault (Segment × Cursor) :=
  let c := (c.takeWhile Text.isBlank).2
  match readLiteral c.pos c.rest with
  | .error fault => .error fault
  | .ok (before, d) =>
    if d.peek?.any Char.isAlphanum then readNumeral before d
    else .ok ({ before := String.ofList before }, d)

/-! ### Places reached -/

theorem exists_of_map_eq_ok {α β ε : Type} {f : α → β} {x : Except ε α} {b : β}
    (h : x.map f = .ok b) : ∃ a, x = .ok a ∧ f a = b := by
  cases x <;> simp_all [Except.map]

mutual
theorem reaches_readLiteral {pos : Nat} {s t : List Char} {d : Cursor}
    (h : readLiteral pos s = .ok (t, d)) : Cursor.Reaches ⟨pos, s⟩ d := by
  match s with
  | [] =>
    simp only [readLiteral, Except.ok.injEq, Prod.mk.injEq] at h
    exact h.2 ▸ .refl _
  | c :: r =>
    simp only [readLiteral] at h
    split at h
    · exact (Cursor.reaches_tail ..).trans (reaches_readQuoted h)
    · split at h
      · obtain ⟨⟨s', d'⟩, hs, he⟩ := exists_of_map_eq_ok h
        simp only [Prod.mk.injEq] at he
        exact (Cursor.reaches_tail ..).trans (he.2 ▸ reaches_readLiteral hs)
      · simp only [Except.ok.injEq, Prod.mk.injEq] at h
        exact h.2 ▸ .refl _
termination_by s.length
theorem reaches_readQuoted {opened : Cursor} {quote : Char} {pos : Nat} {s t : List Char}
    {d : Cursor} (h : readQuoted opened quote pos s = .ok (t, d)) :
    Cursor.Reaches ⟨pos, s⟩ d := by
  match s with
  | [] => simp [readQuoted] at h
  | [c] =>
    simp only [readQuoted] at h
    split at h
    · simp only [Except.ok.injEq, Prod.mk.injEq] at h
      exact h.2 ▸ Cursor.reaches_tail ..
    · simp at h
  | c :: c' :: r =>
    simp only [readQuoted] at h
    split at h
    · split at h
      · obtain ⟨⟨s', d'⟩, hs, he⟩ := exists_of_map_eq_ok h
        simp only [Prod.mk.injEq] at he
        exact ((Cursor.reaches_tail ..).trans (Cursor.reaches_tail ..)).trans
          (he.2 ▸ reaches_readQuoted hs)
      · exact (Cursor.reaches_tail ..).trans (reaches_readLiteral h)
    · obtain ⟨⟨s', d'⟩, hs, he⟩ := exists_of_map_eq_ok h
      simp only [Prod.mk.injEq] at he
      exact (Cursor.reaches_tail ..).trans (he.2 ▸ reaches_readQuoted hs)
termination_by s.length
end

theorem readNameTail_append (s : List Char) : (readNameTail s).1 ++ (readNameTail s).2 = s := by
  induction s with
  | nil => rfl
  | cons c r ih =>
    simp only [readNameTail]
    split <;> simp [ih]

theorem readName_append (s : List Char) : (readName s).1 ++ (readName s).2 = s := by
  unfold readName
  split
  · exact readNameTail_append s
  · rfl

theorem reaches_readName (c : Cursor) :
    c.Reaches ⟨c.pos + (readName c.rest).1.length, (readName c.rest).2⟩ :=
  ⟨(readName c.rest).1, (readName_append c.rest).symm, rfl⟩

theorem reaches_readCounter {c : Cursor} {unknown : Option (Nat × String)}
    {markers : List (Selector × Nat)} {n : Counter}
    (hm : ∀ m ∈ markers, m.2 ≤ c.rest.length) (h : readCounter c unknown markers = .ok n) :
    c.Reaches n.behind := by
  induction markers generalizing unknown with
  | nil =>
    simp only [readCounter] at h
    split at h
    · cases h; exact reaches_readName c
    · simp at h
  | cons m markers ih =>
    simp only [readCounter] at h
    have hle : m.2 ≤ c.rest.length := hm m (List.mem_cons_self ..)
    have hm' : ∀ m ∈ markers, m.2 ≤ c.rest.length := fun m h => hm m (List.mem_cons_of_mem _ h)
    split at h
    · simp at h
    · rename_i separator d hd
      have hc : c.Reaches d := by
        refine Cursor.Reaches.trans ⟨c.rest.take m.2, ?_, ?_⟩ (reaches_readLiteral hd)
        · simp
        · simp [Nat.min_eq_left hle]
      split at h
      · cases h; exact hc.trans (reaches_readName d)
      · split at h
        · exact ih hm' h
        · exact ih hm' h

theorem length_of_mem_markersAt {s : List Char} {m : Selector × Nat} (h : m ∈ markersAt s) :
    m.2 ≤ s.length := by
  simp only [markersAt, List.mem_filterMap] at h
  obtain ⟨n, -, h⟩ := h
  split at h
  · obtain ⟨_, -, rfl⟩ := Option.map_eq_some_iff.1 h
    assumption
  · simp at h

theorem reaches_readSegment {c d : Cursor} {s : Segment} (h : readSegment c = .ok (s, d)) :
    c.Reaches d := by
  simp only [readSegment] at h
  refine (Cursor.reaches_takeWhile c Text.isBlank).trans ?_
  split at h
  · simp at h
  · rename_i before e he
    have hc := reaches_readLiteral he
    split at h
    · refine hc.trans ?_
      simp only [readNumeral] at h
      split at h
      · simp at h
      · rename_i n hn
        obtain ⟨⟨after, d'⟩, hs, hp⟩ := exists_of_map_eq_ok h
        simp only [Prod.mk.injEq] at hp
        exact (reaches_readCounter (fun _ => length_of_mem_markersAt) hn).trans
          (hp.2 ▸ reaches_readLiteral hs)
    · simp only [Except.ok.injEq, Prod.mk.injEq] at h
      exact h.2 ▸ hc

/-! ## Templates -/

/-- The segments from a place on. -/
def readSegments (c : Cursor) : Except TemplateFault Template :=
  match _ : readSegment c with
  | .error fault => .error fault
  | .ok (segment, d) =>
    match _ : d.rest with
    | [] => .ok ⟨segment, [], false⟩
    | x :: r =>
      if x = ',' then
        if Text.trim r = ['*'] then .ok ⟨segment, [], true⟩
        else if Text.allBlank r then
          .error (.malformed (d.pos + 1) (String.ofList r) .templateAfterComma)
        else (readSegments ⟨d.pos + 1, r⟩).map (cons segment)
      else .error (.malformed d.pos (String.ofList (x :: r)) .commaOrEnd)
termination_by c.rest.length
decreasing_by
  rename_i hseg hrest _ _ _
  have := (reaches_readSegment hseg).length_le
  simp only [hrest, List.length_cons] at this
  exact this

def parse (source : String) : Except TemplateError Template :=
  (readSegments (.start source)).mapError (⟨source, ·⟩)

end Template
end Rubric
