import Rubric.Markdown.Line

/-!
# Raw HTML

* `readTag?` : an opening or closing tag;
* `readRawHtml?` : a tag, comment, processing instruction, declaration or CDATA section in a line of
  text;
* `HtmlEnd` : how a block of HTML ends. `HtmlEnd.ofStart?` tells it from the first line of the block.
-/

namespace Rubric.Markdown

/-- Text up to a mark and the mark itself, and what follows. -/
def readThrough? (mark : List Char) (s : List Char) : Option (List Char) :=
  if mark.isPrefixOf s then some (s.drop mark.length)
  else
    match s with
    | [] => none
    | _ :: r => readThrough? mark r

def hasMark (mark : List Char) (s : List Char) : Bool := (readThrough? mark s).isSome

/-! ## Tags -/

/-- A blank or an end of line. -/
def isGap (c : Char) : Bool := isSpace c || c == '\n'

def isAttributeStart (c : Char) : Bool := c.isAlpha || c == '_' || c == ':'

def isAttributeChar (c : Char) : Bool := c.isAlphanum || c == '_' || c == ':' || c == '.' || c == '-'

def isBareValueChar (c : Char) : Bool :=
  !(c.toNat ≤ 32 || c == '\x22' || c == '\x27' || c == '=' || c == '<' || c == '>' || c == '\x60')

/-- A value of an attribute, and what follows it. -/
def readValue? (s : List Char) : Option (List Char) :=
  match s with
  | [] => none
  | c :: r =>
    if c = '\x22' ∨ c = '\x27' then readThrough? [c] r
    else if isBareValueChar c then some (r.dropWhile isBareValueChar)
    else none

/-- What follows an attribute. -/
def readAttribute? (s : List Char) : Option (List Char) :=
  match s with
  | [] => none
  | c :: r =>
    if isAttributeStart c then
      let behind := r.dropWhile isAttributeChar
      match behind.dropWhile isGap with
      | '=' :: v => readValue? (v.dropWhile isGap)
      | _ => some behind
    else none

/-- The end of an opening tag. -/
def readTagEnd? (s : List Char) : Option (List Char) :=
  match s.dropWhile isGap with
  | '>' :: r => some r
  | '/' :: '>' :: r => some r
  | _ => none

/-- Attributes, each with a blank in front, and the end of the tag. -/
def readAttributes? (s : List Char) : Option (List Char) :=
  let r := s.dropWhile isGap
  match readTagEnd? s with
  | some rest => some rest
  | none =>
    if r.length = s.length then none
    else
      match readAttribute? r with
      | none => none
      | some rest => if _ : rest.length < s.length then readAttributes? rest else none
termination_by s.length

def isTagChar (c : Char) : Bool := c.isAlphanum || c == '-'

/-- What follows a tag, whose angle bracket has been read. -/
def readTag? (s : List Char) : Option (List Char) :=
  match s with
  | '/' :: c :: r =>
    if c.isAlpha then
      match (r.dropWhile isTagChar).dropWhile isGap with
      | '>' :: rest => some rest
      | _ => none
    else none
  | c :: r => if c.isAlpha then readAttributes? (r.dropWhile isTagChar) else none
  | [] => none

/-! ## In text -/

/-- What follows a construct that begins with an exclamation mark. -/
def readMarked? (s : List Char) : Option (List Char) :=
  match s with
  | '-' :: '-' :: '>' :: r => some r
  | '-' :: '-' :: '-' :: '>' :: r => some r
  | '-' :: '-' :: r => readThrough? "-->".toList r
  | '[' :: r =>
    if "CDATA[".toList.isPrefixOf r then readThrough? "]]>".toList (r.drop 6) else none
  | c :: r => if c.isAlpha then readThrough? ['>'] r else none
  | [] => none

/-- What follows raw HTML, whose angle bracket has been read. -/
def readRawHtml? (s : List Char) : Option (List Char) :=
  match s with
  | '!' :: r => readMarked? r
  | '?' :: r => readThrough? "?>".toList r
  | _ => readTag? s

/-! ## Blocks -/

/-- How a block of HTML ends. -/
inductive HtmlEnd where
  /-- With the line that has the mark. -/
  | mark (mark : String)
  /-- In front of a blank line. -/
  | blankLine
deriving DecidableEq

namespace HtmlEnd

/-- Tags whose content is taken as it is, up to the closing tag. -/
def verbatimTags : List String := ["pre", "style", "script", "textarea"]

/-- Tags that begin a block wherever a line starts with them. -/
def blockTags : List String :=
  ["address", "article", "aside", "base", "basefont", "blockquote", "body", "caption", "center",
    "col", "colgroup", "dd", "details", "dialog", "dir", "div", "dl", "dt", "fieldset", "figcaption",
    "figure", "footer", "form", "frame", "frameset", "h1", "h2", "h3", "h4", "h5", "h6", "head",
    "header", "hr", "html", "iframe", "legend", "li", "link", "main", "menu", "menuitem", "nav",
    "noframes", "ol", "optgroup", "option", "p", "param", "search", "section", "summary", "table",
    "tbody", "td", "tfoot", "th", "thead", "title", "tr", "track", "ul"]

/-- A text begins with a word in either case and a character that ends the word. -/
def startsWithTag (s : List Char) (tag : String) : Bool :=
  let n := tag.length
  String.ofList ((s.take n).map Char.toLower) == tag &&
    match s.drop n with
    | [] => true
    | c :: _ => isSpace c || c == '>'

/-- The end of a block whose content is taken as it is. -/
def verbatim? (s : List Char) : Option HtmlEnd :=
  match verbatimTags.find? (startsWithTag s) with
  | some tag => some (.mark ("</" ++ tag ++ ">"))
  | none =>
    match s with
    | '!' :: '-' :: '-' :: _ => some (.mark "-->")
    | '?' :: _ => some (.mark "?>")
    | '!' :: '[' :: r => if "CDATA[".toList.isPrefixOf r then some (.mark "]]>") else none
    | '!' :: c :: _ => if c.isAlpha then some (.mark ">") else none
    | _ => none

/-- The name of a block tag stands here, and ends. -/
def startsBlockTag (s : List Char) : Bool :=
  let s := match s with
    | '/' :: r => r
    | _ => s
  let name := String.ofList ((s.takeWhile Char.isAlphanum).map Char.toLower)
  blockTags.contains name &&
    match s.dropWhile Char.isAlphanum with
    | [] => true
    | '/' :: '>' :: _ => true
    | c :: _ => c == ' ' || c == '\t' || c == '>'

/-- The end of a block that may interrupt a paragraph. -/
def interrupting? (s : List Char) : Option HtmlEnd :=
  match s with
  | '<' :: r => verbatim? r <|> if startsBlockTag r then some .blankLine else none
  | _ => none

/-- A single tag takes up the line. -/
def isLoneTag (s : List Char) : Bool :=
  match s with
  | '<' :: r => (readTag? r).any isBlankText
  | _ => false

def ofStart? (s : List Char) : Option HtmlEnd :=
  interrupting? s <|> if isLoneTag s then some .blankLine else none

def isMetBy : HtmlEnd → List Char → Bool
  | mark m, line => hasMark m.toList line
  | blankLine, _ => false

end HtmlEnd
end Rubric.Markdown
