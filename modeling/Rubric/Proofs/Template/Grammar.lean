import Rubric.Counter.Registry
import Rubric.Template.Basic
import Rubric.Text.Blank

/-!
# The grammar of templates

The relations of this file say which texts are templates and what these stand for, without a reading order
and without choosing between readings.

* `Quoted quote s t` : between two quotes of a kind, `s` stands for the text `t`;
* `Literal s t` : the literal text `s` stands for `t`;
* `Name s` : letters and digits in groups that single hyphens join;
* `Marker s selector` : the marker `s` asks for the series of a selector;
* `Level s segment` : the text `s` of one level, with the blanks in front of it, stands for a segment;
* `Star s` : the mark of a template that repeats its last level, amid blanks;
* `Derives s t` : the text `s` stands for the template `t`.
-/

namespace Rubric.Template

/-- What stands between two quotes of a kind. A quote that is written twice stands for itself. -/
inductive Quoted (quote : Char) : List Char → List Char → Prop where
  | nil : Quoted quote [] []
  | char {c : Char} {s t : List Char} (hc : c ≠ quote) (h : Quoted quote s t) :
      Quoted quote (c :: s) (c :: t)
  | twice {s t : List Char} (h : Quoted quote s t) : Quoted quote (quote :: quote :: s) (quote :: t)

/-- Literal text. Outside of quotes every character stands for itself but letters, digits, commas and
quotes, and a quotation ends at the first quote of its kind that is not followed by another. -/
inductive Literal : List Char → List Char → Prop where
  | nil : Literal [] []
  | char {c : Char} {s t : List Char} (halnum : ¬c.isAlphanum) (hcomma : c ≠ ',')
      (hquote : c ≠ '\x22' ∧ c ≠ '\x27') (h : Literal s t) : Literal (c :: s) (c :: t)
  | quoted {quote : Char} {s t s' t' : List Char} (hquote : quote = '\x22' ∨ quote = '\x27')
      (h : Quoted quote s t) (hend : s'.head? ≠ some quote) (h' : Literal s' t') :
      Literal (quote :: (s ++ quote :: s')) (t ++ t')

/-- Letters and digits in groups that single hyphens join. -/
inductive Name : List Char → Prop where
  | word {s : List Char} (hne : s ≠ []) (h : ∀ c ∈ s, c.isAlphanum) : Name s
  | join {s s' : List Char} (hne : s ≠ []) (h : ∀ c ∈ s, c.isAlphanum) (h' : Name s') :
      Name (s ++ '-' :: s')

/-- A marker and the series it asks for, in either case. -/
inductive Marker : List Char → Selector → Prop where
  | any {c : Char} (h : c = 'x' ∨ c = 'X') : Marker [c] .any
  | list {c : Char} (h : c = 'l' ∨ c = 'L') : Marker [c] .list
  | heading {c : Char} (h : c = 'h' ∨ c = 'H') : Marker [c] .heading
  | level {c : Char} (h : c = 'h' ∨ c = 'H') (l : HeadingLevel) :
      Marker [c, Nat.digitChar l.number] (.level l)

/-- The text of a level behind its leading blanks: literal text alone, or the name of a style between
literal texts, or that with a marker and more literal text in front of the name. -/
inductive Spells : List Char → Segment → Prop where
  | literal {s t : List Char} (h : Literal s t) : Spells s { before := String.ofList t }
  | numeral {s t name s' t' : List Char} {style : CounterStyle} (h : Literal s t) (hname : Name name)
      (hstyle : Registry.find? (String.ofList name) = some style) (h' : Literal s' t') :
      Spells (s ++ (name ++ s'))
        { before := String.ofList t, after := String.ofList t', style := some style }
  | marked {s t marker u v name s' t' : List Char} {selector : Selector} {style : CounterStyle}
      (h : Literal s t) (hmarker : Marker marker selector) (hseparator : Literal u v) (hname : Name name)
      (hstyle : Registry.find? (String.ofList name) = some style) (h' : Literal s' t') :
      Spells (s ++ (marker ++ (u ++ (name ++ s'))))
        { before := String.ofList t, separator := String.ofList v, after := String.ofList t',
          parent := some selector, style := some style }

/-- The text of a level. All blanks in front of it are dropped. -/
inductive Level : List Char → Segment → Prop where
  | mk {blanks s : List Char} {segment : Segment} (hblanks : ∀ c ∈ blanks, Text.isBlank c)
      (hfirst : ∀ c ∈ s.head?, ¬Text.isBlank c) (h : Spells s segment) : Level (blanks ++ s) segment

/-- A star amid blanks. -/
inductive Star : List Char → Prop where
  | mk {blanks blanks' : List Char} (h : ∀ c ∈ blanks, Text.isBlank c)
      (h' : ∀ c ∈ blanks', Text.isBlank c) : Star (blanks ++ '*' :: blanks')

/-- The text of a template: one level, which a star behind a comma repeats, or a level and a template behind
a comma, where neither a star nor blanks alone count as a template. -/
inductive Derives : List Char → Template → Prop where
  | last {s : List Char} {segment : Segment} (h : Level s segment) : Derives s ⟨segment, [], false⟩
  | repeated {s r : List Char} {segment : Segment} (h : Level s segment) (hstar : Star r) :
      Derives (s ++ ',' :: r) ⟨segment, [], true⟩
  | next {s r : List Char} {segment : Segment} {t : Template} (h : Level s segment) (hstar : ¬Star r)
      (hblank : ¬∀ c ∈ r, Text.isBlank c) (h' : Derives r t) : Derives (s ++ ',' :: r) (cons segment t)

end Rubric.Template
