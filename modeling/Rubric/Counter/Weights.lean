/-!
# Weights of the additive styles

One table for each predefined additive style, in the order in which weights are taken.
-/

namespace Rubric.Weights

def lowerRoman : List (Nat × String) :=
  [(1000, "m"), (900, "cm"), (500, "d"), (400, "cd"), (100, "c"), (90, "xc"), (50, "l"),
    (40, "xl"), (10, "x"), (9, "ix"), (5, "v"), (4, "iv"), (1, "i")]

def upperRoman : List (Nat × String) :=
  [(1000, "M"), (900, "CM"), (500, "D"), (400, "CD"), (100, "C"), (90, "XC"), (50, "L"),
    (40, "XL"), (10, "X"), (9, "IX"), (5, "V"), (4, "IV"), (1, "I")]

/-- Hebrew letters; fifteen and sixteen avoid the letters of the divine name. -/
def hebrew : List (Nat × String) :=
  [(10000, "י׳"), (9000, "ט׳"), (8000, "ח׳"), (7000, "ז׳"), (6000, "ו׳"), (5000, "ה׳"),
    (4000, "ד׳"), (3000, "ג׳"), (2000, "ב׳"), (1000, "א׳"), (400, "ת"), (300, "ש"), (200, "ר"),
    (100, "ק"), (90, "צ"), (80, "פ"), (70, "ע"), (60, "ס"), (50, "נ"), (40, "מ"), (30, "ל"),
    (20, "כ"), (19, "יט"), (18, "יח"), (17, "יז"), (16, "טז"), (15, "טו"), (10, "י"), (9, "ט"),
    (8, "ח"), (7, "ז"), (6, "ו"), (5, "ה"), (4, "ד"), (3, "ג"), (2, "ב"), (1, "א")]

def upperArmenian : List (Nat × String) :=
  [(9000, "Ք"), (8000, "Փ"), (7000, "Ւ"), (6000, "Ց"), (5000, "Ր"), (4000, "Տ"), (3000, "Վ"),
    (2000, "Ս"), (1000, "Ռ"), (900, "Ջ"), (800, "Պ"), (700, "Չ"), (600, "Ո"), (500, "Շ"),
    (400, "Ն"), (300, "Յ"), (200, "Մ"), (100, "Ճ"), (90, "Ղ"), (80, "Ձ"), (70, "Հ"), (60, "Կ"),
    (50, "Ծ"), (40, "Խ"), (30, "Լ"), (20, "Ի"), (10, "Ժ"), (9, "Թ"), (8, "Ը"), (7, "Է"),
    (6, "Զ"), (5, "Ե"), (4, "Դ"), (3, "Գ"), (2, "Բ"), (1, "Ա")]

def lowerArmenian : List (Nat × String) :=
  [(9000, "ք"), (8000, "փ"), (7000, "ւ"), (6000, "ց"), (5000, "ր"), (4000, "տ"), (3000, "վ"),
    (2000, "ս"), (1000, "ռ"), (900, "ջ"), (800, "պ"), (700, "չ"), (600, "ո"), (500, "շ"),
    (400, "ն"), (300, "յ"), (200, "մ"), (100, "ճ"), (90, "ղ"), (80, "ձ"), (70, "հ"), (60, "կ"),
    (50, "ծ"), (40, "խ"), (30, "լ"), (20, "ի"), (10, "ժ"), (9, "թ"), (8, "ը"), (7, "է"),
    (6, "զ"), (5, "ե"), (4, "դ"), (3, "գ"), (2, "բ"), (1, "ա")]

def georgian : List (Nat × String) :=
  [(10000, "ჵ"), (9000, "ჰ"), (8000, "ჯ"), (7000, "ჴ"), (6000, "ხ"), (5000, "ჭ"), (4000, "წ"),
    (3000, "ძ"), (2000, "ც"), (1000, "ჩ"), (900, "შ"), (800, "ყ"), (700, "ღ"), (600, "ქ"),
    (500, "ფ"), (400, "ჳ"), (300, "ტ"), (200, "ს"), (100, "რ"), (90, "ჟ"), (80, "პ"), (70, "ო"),
    (60, "ჲ"), (50, "ნ"), (40, "მ"), (30, "ლ"), (20, "კ"), (10, "ი"), (9, "თ"), (8, "ჱ"),
    (7, "ზ"), (6, "ვ"), (5, "ე"), (4, "დ"), (3, "გ"), (2, "ბ"), (1, "ა")]

/-- Japanese numerals of everyday use. -/
def japaneseInformal : List (Nat × String) :=
  [(9000, "九千"), (8000, "八千"), (7000, "七千"), (6000, "六千"), (5000, "五千"), (4000, "四千"),
    (3000, "三千"), (2000, "二千"), (1000, "千"), (900, "九百"), (800, "八百"), (700, "七百"), (600, "六百"),
    (500, "五百"), (400, "四百"), (300, "三百"), (200, "二百"), (100, "百"), (90, "九十"), (80, "八十"),
    (70, "七十"), (60, "六十"), (50, "五十"), (40, "四十"), (30, "三十"), (20, "二十"), (10, "十"), (9, "九"),
    (8, "八"), (7, "七"), (6, "六"), (5, "五"), (4, "四"), (3, "三"), (2, "二"), (1, "一"), (0, "〇")]

/-- Japanese numerals of legal and financial use. -/
def japaneseFormal : List (Nat × String) :=
  [(9000, "九阡"), (8000, "八阡"), (7000, "七阡"), (6000, "六阡"), (5000, "伍阡"), (4000, "四阡"),
    (3000, "参阡"), (2000, "弐阡"), (1000, "壱阡"), (900, "九百"), (800, "八百"), (700, "七百"), (600, "六百"),
    (500, "伍百"), (400, "四百"), (300, "参百"), (200, "弐百"), (100, "壱百"), (90, "九拾"), (80, "八拾"),
    (70, "七拾"), (60, "六拾"), (50, "伍拾"), (40, "四拾"), (30, "参拾"), (20, "弐拾"), (10, "壱拾"), (9, "九"),
    (8, "八"), (7, "七"), (6, "六"), (5, "伍"), (4, "四"), (3, "参"), (2, "弐"), (1, "壱"), (0, "零")]

def koreanHangulFormal : List (Nat × String) :=
  [(9000, "구천"), (8000, "팔천"), (7000, "칠천"), (6000, "육천"), (5000, "오천"), (4000, "사천"),
    (3000, "삼천"), (2000, "이천"), (1000, "일천"), (900, "구백"), (800, "팔백"), (700, "칠백"), (600, "육백"),
    (500, "오백"), (400, "사백"), (300, "삼백"), (200, "이백"), (100, "일백"), (90, "구십"), (80, "팔십"),
    (70, "칠십"), (60, "육십"), (50, "오십"), (40, "사십"), (30, "삼십"), (20, "이십"), (10, "일십"), (9, "구"),
    (8, "팔"), (7, "칠"), (6, "육"), (5, "오"), (4, "사"), (3, "삼"), (2, "이"), (1, "일"), (0, "영")]

end Rubric.Weights
