/-!
# YAML の字句

YAML 文書を読む最初の段階で使う位置・字句・文字の分類。位置は 0 から数える行と桁を持つ。
-/
namespace HttpCaching.Yaml

/-- 文字列の中の位置: 文字の番号、行、列。どれも零から数える。 -/
structure Mark where
  index : Nat
  line : Nat
  column : Nat
  deriving Inhabited, Repr

/-- スカラーの書き方。 -/
inductive ScalarStyle where
  | plain
  | singleQuoted
  | doubleQuoted
  | literal
  | folded
  deriving DecidableEq, Inhabited, Repr

/-- 字句の種類。ブロックの集まりは字下げで開いて閉じる。単純キーは、その `:` が見えたときに前に
`key` 字句がつく。 -/
inductive TokenKind where
  | streamStart
  | streamEnd
  | documentStart
  | documentEnd
  | blockSequenceStart
  | blockMappingStart
  | blockEnd
  | flowSequenceStart
  | flowSequenceEnd
  | flowMappingStart
  | flowMappingEnd
  | blockEntry
  | flowEntry
  | key
  | value
  | scalar (text : String) (style : ScalarStyle)
  /-- 文書の前の `%YAML major.minor`。 -/
  | versionDirective (major minor : Nat)
  /-- 文書の前の `%TAG handle uri`。 -/
  | tagDirective (handle uri : String)
  /-- 節点の前の `&name`。 -/
  | anchor (name : String)
  /-- 節点の代わりの `*name`。 -/
  | alias (name : String)
  /-- 節点の前の `!handle!suffix`、`!suffix` または `!<uri>`。最後のものではハンドルは空。 -/
  | tag (handle suffix : String)
  deriving DecidableEq, Inhabited, Repr

/-- 始まりと終わりの位置をつけた字句。 -/
structure Token where
  kind : TokenKind
  start : Mark
  stop : Mark
  deriving Inhabited, Repr

/-- 読む途中で見つけた問題: 何を読んでいてどこで始まったか、問題、それを見つけた位置。 -/
structure Problem where
  context : Option (String × Mark)
  problem : String
  mark : Mark
  deriving Inhabited, Repr

/-- 文字列の終わりを表す文字。 -/
def endChar : Char := Char.ofNat 0

/-- 一重引用符。 -/
def apostrophe : Char := Char.ofNat 39

/-- 改行: CR、LF、NEL、LS、PS。 -/
def isBreak (c : Char) : Bool :=
  c == '\r' || c == '\n' || c.toNat == 0x85 || c.toNat == 0x2028 || c.toNat == 0x2029

/-- 空白かタブ。 -/
def isBlank (c : Char) : Bool := c == ' ' || c == '\t'

/-- 文字列の終わり。 -/
def isEnd (c : Char) : Bool := c.toNat == 0

/-- 空白、改行、または終わり。 -/
def isBlankZ (c : Char) : Bool := isBlank c || isBreak c || isEnd c

/-- 改行か終わり。 -/
def isBreakZ (c : Char) : Bool := isBreak c || isEnd c

/-- YAML の文字列が持ってよい文字。 -/
def isAllowed (c : Char) : Bool :=
  let n := c.toNat
  n == 0x09 || n == 0x0A || n == 0x0D || (0x20 ≤ n && n ≤ 0x7E) || n == 0x85 ||
    (0xA0 ≤ n && n ≤ 0xD7FF) || (0xE000 ≤ n && n ≤ 0xFFFD) || (0x10000 ≤ n && n ≤ 0x10FFFF)

end HttpCaching.Yaml
