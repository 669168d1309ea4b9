/-!
# 空白文字

Unicode の White_Space 属性を持つ文字と、前後の空白を落とす `trimBlank`。
ディレクティブ名と引数の前後はこの意味の空白で切り詰める。
HTAB と SP だけを落とす `trimOws` は RFC 9110 の OWS に当たる。
-/
namespace HttpCaching.Text

/-- Unicode の White_Space: ASCII の制御文字 HTAB..CR、空白、NEL、NBSP、オガム文字の空白、
U+2000..U+200A の幅の空白、行と段落の区切り、狭いノーブレークスペース、数式用の中くらいの空白、
和字間隔。U+FEFF は含まない。 -/
def isBlank (c : Char) : Bool :=
  let n := c.toNat
  (0x09 ≤ n && n ≤ 0x0D) || n == 0x20 || n == 0x85 || n == 0xA0 || n == 0x1680 ||
    (0x2000 ≤ n && n ≤ 0x200A) || n == 0x2028 || n == 0x2029 || n == 0x202F ||
    n == 0x205F || n == 0x3000

/-- HTTP のフィールドの省略可能な空白: 空白と水平タブだけ。 -/
def isOws (c : Char) : Bool := c == ' ' || c == '\t'

/-- 列の両端から、ある種類の文字を除く。 -/
def trimList (p : Char → Bool) (cs : List Char) : List Char :=
  ((cs.dropWhile p).reverse.dropWhile p).reverse

/-- 両端から Unicode の空白を除く。 -/
def trimBlank (s : String) : String :=
  String.ofList (trimList isBlank s.toList)

/-- 両端から空白と水平タブを除く。 -/
def trimOws (s : String) : String :=
  String.ofList (trimList isOws s.toList)

end HttpCaching.Text
