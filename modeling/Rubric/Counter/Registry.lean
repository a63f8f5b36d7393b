import Rubric.Counter.Style
import Rubric.Counter.Weights

/-!
# The predefined counter styles

* `Registry.styles` : every predefined style, each once;
* `Registry.aliases` : short and alternative names;
* `Registry.find? name` : the style of a name or alias;
* `Registry.names` : the names of the styles, sorted.

Every style but `decimal` falls back to `decimal`; the Japanese and Chinese ones fall back to
`cjk-decimal` first.
-/

namespace Rubric.Registry

def glyphs (s : String) : List String := s.toList.map String.singleton

def codePoints (first count : Nat) : List String :=
  (List.range count).map fun i => String.singleton (Char.ofNat (first + i))

/-! ## The decimal styles -/

def decimal : CounterStyle := .ofRule { name := "decimal", system := .numeric (glyphs "0123456789") }

/-- A rule that falls back to `decimal`. -/
def style (rule : CounterRule) : CounterStyle := .ofRule rule decimal

/-- The mark after East Asian numerals. -/
def enumerationComma : Affixes := ⟨"", "、"⟩

/-- Chinese digits in positional notation. -/
def cjkDecimal : CounterStyle :=
  style
    { name := "cjk-decimal", system := .numeric (glyphs "〇一二三四五六七八九"),
      affixes := enumerationComma }

/-! ## Positional styles -/

def digitBlocks : List (String × Nat) :=
  [("arabic-indic", 0x0660), ("persian", 0x06F0), ("urdu", 0x06F0), ("devanagari", 0x0966),
    ("marathi", 0x0966), ("bengali", 0x09E6), ("gurmukhi", 0x0A66), ("gujarati", 0x0AE6),
    ("oriya", 0x0B66), ("tamil", 0x0BE6), ("telugu", 0x0C66), ("kannada", 0x0CE6),
    ("malayalam", 0x0D66), ("thai", 0x0E50), ("lao", 0x0ED0), ("tibetan", 0x0F20),
    ("myanmar", 0x1040), ("khmer", 0x17E0), ("cambodian", 0x17E0), ("mongolian", 0x1810),
    ("limbu", 0x1946), ("new-tai-lue", 0x19D0), ("balinese", 0x1B50), ("sundanese", 0x1BB0),
    ("lepcha", 0x1C40), ("ol-chiki", 0x1C50), ("kayah-li", 0xA900), ("javanese", 0xA9D0),
    ("osmanya", 0x104A0), ("fullwidth-decimal", 0xFF10)]

def digitTables : List (String × String) :=
  [("binary", "01"), ("octal", "01234567"), ("lower-hexadecimal", "0123456789abcdef"),
    ("upper-hexadecimal", "0123456789ABCDEF"), ("super-decimal", "⁰¹²³⁴⁵⁶⁷⁸⁹")]

def numeric : List CounterStyle :=
  style
      { name := "decimal-leading-zero", system := .numeric (glyphs "0123456789"),
        pad := some ⟨2, "0"⟩ } ::
    (digitTables.map fun (name, digits) =>
      style { name := name, system := .numeric (glyphs digits) }) ++
    digitBlocks.map fun (name, first) =>
      style { name := name, system := .numeric (codePoints first 10) }

/-! ## Alphabetic styles -/

def latinBlocks : List (String × Nat) :=
  [("lower-alpha", 0x61), ("lower-latin", 0x61), ("upper-alpha", 0x41), ("upper-latin", 0x41),
    ("fullwidth-lower-alpha", 0xFF41), ("fullwidth-upper-alpha", 0xFF21)]

def alphabets : List (String × String) :=
  [("lower-greek", "αβγδεζηθικλμνξοπρστυφχψω"),
    ("upper-greek", "ΑΒΓΔΕΖΗΘΙΚΛΜΝΞΟΠΡΣΤΥΦΧΨΩ"),
    ("lower-russian", "абвгдежзиклмнопрстуфхцчшщэюя"),
    ("upper-russian", "АБВГДЕЖЗИКЛМНОПРСТУФХЦЧШЩЭЮЯ"),
    ("lower-ukrainian", "абвгдежзийклмнопрстуфхцчшщюя"),
    ("upper-ukrainian", "АБВГДЕЖЗИЙКЛМНОПРСТУФХЦЧШЩЮЯ")]

/-- East Asian orders of syllables and cyclic signs. -/
def syllabaries : List (String × String) :=
  [("hiragana", "あいうえおかきくけこさしすせそたちつてとなにぬねのはひふへほまみむめもやゆよらりるれろわゐゑをん"),
    ("hiragana-iroha", "いろはにほへとちりぬるをわかよたれそつねならむうゐのおくやまけふこえてあさきゆめみしゑひもせす"),
    ("katakana", "アイウエオカキクケコサシスセソタチツテトナニヌネノハヒフヘホマミムメモヤユヨラリルレロワヰヱヲン"),
    ("katakana-iroha", "イロハニホヘトチリヌルヲワカヨタレソツネナラムウヰノオクヤマケフコエテアサキユメミシヱヒモセス"),
    ("cjk-earthly-branch", "子丑寅卯辰巳午未申酉戌亥"),
    ("cjk-heavenly-stem", "甲乙丙丁戊己庚辛壬癸")]

def alphabetic : List CounterStyle :=
  (latinBlocks.map fun (name, first) =>
      style { name := name, system := .alphabetic (codePoints first 26) }) ++
    (alphabets.map fun (name, letters) =>
      style { name := name, system := .alphabetic (glyphs letters) }) ++
    syllabaries.map fun (name, signs) =>
      style
        { name := name, system := .alphabetic (glyphs signs), affixes := enumerationComma }

/-! ## Additive styles -/

/-- A style with weights for the counts from one to a greatest one. -/
def additiveTo (name : String) (greatest : Int) (table : List (Nat × String)) : CounterStyle :=
  style { name := name, system := .additive table, range := ⟨some 1, some greatest⟩ }

/-- The counts whose magnitude has at most four decimal digits. -/
def fourDigits : CounterRange := ⟨some (-9999), some 9999⟩

def japanese (name : String) (table : List (Nat × String)) : CounterStyle :=
  .ofRule
    { name := name, system := .additive table, range := fourDigits, sign := ⟨"マイナス", ""⟩,
      affixes := enumerationComma }
    cjkDecimal

def additive : List CounterStyle :=
  [additiveTo "lower-roman" 3999 Weights.lowerRoman,
    additiveTo "upper-roman" 3999 Weights.upperRoman,
    additiveTo "hebrew" 10999 Weights.hebrew,
    additiveTo "armenian" 9999 Weights.upperArmenian,
    additiveTo "upper-armenian" 9999 Weights.upperArmenian,
    additiveTo "lower-armenian" 9999 Weights.lowerArmenian,
    additiveTo "georgian" 19999 Weights.georgian,
    japanese "japanese-informal" Weights.japaneseInformal,
    japanese "japanese-formal" Weights.japaneseFormal,
    style
      { name := "korean-hangul-formal", system := .additive Weights.koreanHangulFormal,
        range := fourDigits, sign := ⟨"마이너스 ", ""⟩, affixes := ⟨"", ", "⟩ }]

/-! ## Symbols, bullets and tables -/

def symbolic : List CounterStyle :=
  [style { name := "lower-alpha-symbolic", system := .symbolic (codePoints 0x61 26) },
    style { name := "upper-alpha-symbolic", system := .symbolic (codePoints 0x41 26) },
    style { name := "footnote", system := .symbolic (glyphs "*⁑†‡") }]

/-- The styles with one bullet for every count. -/
def cyclic : List CounterStyle :=
  [("disc", "•"), ("circle", "◦"), ("square", "▪"), ("disclosure-open", "▾"),
    ("disclosure-closed", "▸")].map fun (name, bullet) =>
      style { name := name, system := .cyclic [bullet] }

/-- The sixty pairs of a stem and a branch, both advancing at once. -/
def stemBranch : List String :=
  (List.range 60).map fun i =>
    (glyphs "甲乙丙丁戊己庚辛壬癸").getD (i % 10) "" ++
      (glyphs "子丑寅卯辰巳午未申酉戌亥").getD (i % 12) ""

def tables : List (String × List String) :=
  [("circled-lower-latin", codePoints 0x24D0 26),
    ("circled-upper-latin", codePoints 0x24B6 26),
    ("filled-circled-decimal", codePoints 0x2776 10 ++ codePoints 0x24EB 10),
    ("double-circled-decimal", codePoints 0x24F5 10),
    ("parenthesized-decimal", codePoints 0x2474 20),
    ("parenthesized-lower-latin", codePoints 0x249C 26),
    ("dotted-decimal", codePoints 0x2488 20),
    ("cjk-stem-branch", stemBranch)]

def circled : List String :=
  codePoints 0x24EA 1 ++ codePoints 0x2460 20 ++ codePoints 0x3251 15 ++ codePoints 0x32B1 15

def fixed : List CounterStyle :=
  style { name := "circled-decimal", system := .fixed 0 circled } ::
    tables.map fun (name, symbols) => style { name := name, system := .fixed 1 symbols }

/-! ## Chinese and Ethiopic numerals -/

def informalChinese : Numeral.ChineseSymbols :=
  ⟨#v['零', '一', '二', '三', '四', '五', '六', '七', '八', '九'], #v['十', '百', '千']⟩

def simplifiedFormal : Numeral.ChineseSymbols :=
  ⟨#v['零', '壹', '贰', '叁', '肆', '伍', '陆', '柒', '捌', '玖'], #v['拾', '佰', '仟']⟩

def traditionalFormal : Numeral.ChineseSymbols :=
  ⟨#v['零', '壹', '貳', '參', '肆', '伍', '陸', '柒', '捌', '玖'], #v['拾', '佰', '仟']⟩

def chineseStyle (name : String) (symbols : Numeral.ChineseSymbols) (minus : String) :
    CounterStyle :=
  .ofRule
    { name := name, system := .chinese symbols, sign := ⟨minus, ""⟩, affixes := enumerationComma }
    cjkDecimal

def chinese : List CounterStyle :=
  [chineseStyle "simp-chinese-informal" informalChinese "负",
    chineseStyle "simp-chinese-formal" simplifiedFormal "负",
    chineseStyle "trad-chinese-informal" informalChinese "負",
    chineseStyle "trad-chinese-formal" traditionalFormal "負"]

def ethiopic : CounterStyle := style { name := "ethiopic-numeric", system := .ethiopic }

/-! ## Look-up -/

def styles : List CounterStyle :=
  decimal :: cjkDecimal ::
    (numeric ++ alphabetic ++ additive ++ symbolic ++ cyclic ++ fixed ++ chinese ++ [ethiopic])

def aliases : List (String × String) :=
  [("1", "decimal"), ("a", "lower-alpha"), ("A", "upper-alpha"), ("i", "lower-roman"),
    ("I", "upper-roman"), ("cjk-ideographic", "trad-chinese-informal")]

/-- The name that a name or alias stands for. -/
def canonical (name : String) : String := (aliases.lookup name).getD name

def find? (name : String) : Option CounterStyle :=
  styles.find? (·.name == canonical name)

/-- The names of all styles in code point order. -/
def names : List String := (styles.map CounterStyle.name).mergeSort fun a b => decide (a ≤ b)

end Rubric.Registry
