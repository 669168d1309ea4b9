import HttpCaching.Text.Utf8
/-!
# SQL の字句

SQL の文字列 (バイト列) を字句に分ける。

* 空白 (SP・HT・LF・FF・CR) と注釈 (`--` から行末まで、`/*` から `*/` か文字列の終わりまで)
  は読み飛ばす。NUL バイトで文字列は終わる。
* 名前は英字・数字・`_`・`$`・0x80 以上のバイトの並びで、英字と `_` だけからなり予約語の
  どれかに (大文字小文字を問わず) 一致すれば予約語。`"…"`・`` `…` ``・`[…]` も名前になり、
  `'…'` は文字列 (二つ重ねた引用符は一つを表す)。閉じない引用は読めない字句。
* 数は十進 (小数点・指数を含みうる) か `0x` に続く十六進で、十進の数の直後に名前の
  文字が続けば全体が読めない字句。`x'…'` は偶数個の十六進数字のバイト列。
* `?`・`?NNN`・`:名前`・`@名前`・`$名前`・`#名前` は値を後から渡す変数。
* 演算子は `||` `->` `->>` `==` `!=` `<>` `<=` `>=` `<<` `>>` と一文字の記号。`!` だけ、
  その他の記号は読めない字句。
* 各字句は元のバイトと始まりの位置を持つ。誤りの文はそのバイトを示し、制約の式などは
  元の文字列の切り出しとして残る。
-/
namespace HttpCaching.Sql

/-- 字句の種類。 -/
inductive TokenKind where
  /-- キーワードでない裸の語。 -/
  | bare
  /-- 二重引用符の中の名前。テキストを表すこともある。 -/
  | doubleQuoted
  /-- 逆引用符か角括弧の中の名前。 -/
  | quotedName
  /-- 一重引用符の中のテキスト。 -/
  | string
  | integer
  | float
  | blob
  | variable
  /-- キーワード。大文字のテキストで。 -/
  | keyword (word : String)
  /-- 演算子か句読点。正規のテキストで。 -/
  | op (text : String)
  /-- 字句にならないバイト。 -/
  | illegal
  deriving DecidableEq, Repr, Inhabited

/-- 字句: 種類、書いたとおりのバイト、最初のバイトの位置。 -/
structure Token where
  kind : TokenKind
  raw : List Nat
  start : Nat
  deriving Inhabited, Repr

/-- バイトが ASCII の英字かどうか。 -/
def isLetterByte (b : Nat) : Bool := (65 ≤ b && b ≤ 90) || (97 ≤ b && b ≤ 122)

/-- バイトが ASCII の数字かどうか。 -/
def isDigitByte (b : Nat) : Bool := 48 ≤ b && b ≤ 57

/-- バイトが十六進の数字かどうか。 -/
def isHexByte (b : Nat) : Bool :=
  isDigitByte b || (65 ≤ b && b ≤ 70) || (97 ≤ b && b ≤ 102)

/-- 十六進の数字の値。 -/
def hexByteValue (b : Nat) : Nat :=
  if isDigitByte b then b - 48 else if 65 ≤ b && b ≤ 70 then b - 55 else b - 87

/-- バイトが裸の名前の中に立てるかどうか: 英字、数字、`_`、`$`、または多バイト文字のバイト。 -/
def isNameByte (b : Nat) : Bool := isLetterByte b || isDigitByte b || b == 95 || b == 36 || b ≥ 128

/-- バイトが字句の間の空白かどうか。 -/
def isSpaceByte (b : Nat) : Bool := b == 32 || b == 9 || b == 10 || b == 12 || b == 13

/-- ASCII の英字の大文字のバイト。ほかのバイトは保つ。 -/
def upperByte (b : Nat) : Nat := if 97 ≤ b && b ≤ 122 then b - 32 else b

/-- ASCII の英字の小文字のバイト。ほかのバイトは保つ。 -/
def lowerByte (b : Nat) : Nat := if 65 ≤ b && b ≤ 90 then b + 32 else b

/-- 文の言語のキーワード。 -/
def keywords : List String :=
  ["ABORT", "ACTION", "ADD", "AFTER", "ALL", "ALTER", "ALWAYS", "ANALYZE", "AND", "AS", "ASC",
   "ATTACH", "AUTOINCREMENT", "BEFORE", "BEGIN", "BETWEEN", "BY", "CASCADE", "CASE", "CAST",
   "CHECK", "COLLATE", "COLUMN", "COMMIT", "CONFLICT", "CONSTRAINT", "CREATE", "CROSS",
   "CURRENT", "CURRENT_DATE", "CURRENT_TIME", "CURRENT_TIMESTAMP", "DATABASE", "DEFAULT",
   "DEFERRABLE", "DEFERRED", "DELETE", "DESC", "DETACH", "DISTINCT", "DO", "DROP", "EACH",
   "ELSE", "END", "ESCAPE", "EXCEPT", "EXCLUDE", "EXCLUSIVE", "EXISTS", "EXPLAIN", "FAIL",
   "FILTER", "FIRST", "FOLLOWING", "FOR", "FOREIGN", "FROM", "FULL", "GENERATED", "GLOB",
   "GROUP", "GROUPS", "HAVING", "IF", "IGNORE", "IMMEDIATE", "IN", "INDEX", "INDEXED",
   "INITIALLY", "INNER", "INSERT", "INSTEAD", "INTERSECT", "INTO", "IS", "ISNULL", "JOIN", "KEY",
   "LAST", "LEFT", "LIKE", "LIMIT", "MATCH", "MATERIALIZED", "NATURAL", "NO", "NOT", "NOTHING",
   "NOTNULL", "NULL", "NULLS", "OF", "OFFSET", "ON", "OR", "ORDER", "OTHERS", "OUTER", "OVER",
   "PARTITION", "PLAN", "PRAGMA", "PRECEDING", "PRIMARY", "QUERY", "RAISE", "RANGE",
   "RECURSIVE", "REFERENCES", "REGEXP", "REINDEX", "RELEASE", "RENAME", "REPLACE", "RESTRICT",
   "RETURNING", "RIGHT", "ROLLBACK", "ROW", "ROWS", "SAVEPOINT", "SELECT", "SET", "TABLE",
   "TEMP", "TEMPORARY", "THEN", "TIES", "TO", "TRANSACTION", "TRIGGER", "UNBOUNDED", "UNION",
   "UNIQUE", "UPDATE", "USING", "VACUUM", "VALUES", "VIEW", "VIRTUAL", "WHEN", "WHERE",
   "WINDOW", "WITH", "WITHOUT"]

/-- それ自身として立てない所で名前として立つキーワード。 -/
def fallbackKeywords : List String :=
  ["ABORT", "ACTION", "AFTER", "ANALYZE", "ASC", "ATTACH", "BEFORE", "BEGIN", "BY", "CASCADE",
   "CAST", "COLUMN", "CONFLICT", "DATABASE", "DEFERRED", "DESC", "DETACH", "DO", "EACH", "END",
   "EXCLUSIVE", "EXPLAIN", "FAIL", "FOR", "IGNORE", "IMMEDIATE", "INITIALLY", "INSTEAD", "LIKE",
   "GLOB", "REGEXP", "MATCH", "NO", "PLAN", "QUERY", "KEY", "OF", "OFFSET", "PRAGMA", "RAISE",
   "RECURSIVE", "RELEASE", "REPLACE", "RESTRICT", "ROW", "ROWS", "ROLLBACK", "SAVEPOINT", "TEMP",
   "TEMPORARY", "TRIGGER", "VACUUM", "VIEW", "VIRTUAL", "WITH", "WITHOUT", "NULLS", "FIRST",
   "LAST", "CURRENT", "FOLLOWING", "PARTITION", "PRECEDING", "RANGE", "UNBOUNDED", "EXCLUDE",
   "GROUPS", "OTHERS", "TIES", "GENERATED", "ALWAYS", "MATERIALIZED", "REINDEX", "RENAME",
   "CURRENT_TIME", "CURRENT_DATE", "CURRENT_TIMESTAMP", "IF"]

/-- つなぎ方を名指すキーワード。名前としても立てる。 -/
def joinKeywords : List String := ["CROSS", "FULL", "INNER", "LEFT", "NATURAL", "OUTER", "RIGHT"]

/-- 裸の語の種類: 英字と `_` だけからなり、キーワードであればキーワード。 -/
def wordKind (w : List Nat) : TokenKind :=
  if w.all (fun b => isLetterByte b || b == 95) then
    let upper := String.ofList (w.map fun b => Char.ofNat (upperByte b))
    if keywords.contains upper then .keyword upper else .bare
  else .bare

/-- 試しを通るバイトの続きの長さ。 -/
def runLength (p : Nat → Bool) (cs : List Nat) : Nat := (cs.takeWhile p).length

/-- 開く引用符 `q` からの引用符の字句の長さ。二重にした引用符は一つを表す。
引用符が閉じていなければ `none`。 -/
def quotedLength (q : Nat) : List Nat → Nat → Option Nat
  | [], _ => none
  | c :: rest, n =>
    if c == q then
      match rest with
      | d :: rest' => if d == q then quotedLength q rest' (n + 2) else some (n + 1)
      | [] => some (n + 1)
    else quotedLength q rest (n + 1)

/-- 十進の数: 数字、端数、指数。名前のバイトがくっついていれば字句にならない。 -/
def decimalToken (cs : List Nat) : Nat × TokenKind :=
  let i := runLength isDigitByte cs
  let (i, isFloat) := match cs.drop i with
    | 46 :: rest => (i + 1 + runLength isDigitByte rest, true)
    | _ => (i, false)
  let (i, isFloat) := match cs.drop i with
    | e :: d :: rest =>
      if e == 101 || e == 69 then
        if isDigitByte d then (i + 2 + runLength isDigitByte rest, true)
        else if d == 43 || d == 45 then
          match rest with
          | d' :: rest' =>
            if isDigitByte d' then (i + 3 + runLength isDigitByte rest', true) else (i, isFloat)
          | [] => (i, isFloat)
        else (i, isFloat)
      else (i, isFloat)
    | _ => (i, isFloat)
  let glued := runLength isNameByte (cs.drop i)
  (i + glued, if glued > 0 then .illegal else if isFloat then .float else .integer)

/-- 数の字句: `0x` と十六進の数字、または十進の数。 -/
def numberToken (cs : List Nat) : Nat × TokenKind :=
  match cs with
  | 48 :: x :: h :: _ =>
    if (x == 120 || x == 88) && isHexByte h then (2 + runLength isHexByte (cs.drop 2), .integer)
    else decimalToken cs
  | _ => decimalToken cs

/-- 符号の後の変数の字句の長さ: 名前のバイト、中の `::`、または括弧の接尾辞。
名前のバイトがなければ字句にならない。 -/
def variableToken (rest : List Nat) : Nat × TokenKind :=
  go rest 1 0
where
  /-- そこまでに名前のバイトが `n` 個の字句の、バイト `i` から読む。 -/
  go : List Nat → Nat → Nat → Nat × TokenKind
    | [], i, n => (i, if n == 0 then .illegal else .variable)
    | 58 :: 58 :: r, i, n => go r (i + 2) n
    | c :: r, i, n =>
      if isNameByte c then go r (i + 1) (n + 1)
      else if c == 40 && n > 0 then
        let inner := runLength (fun b => b != 41 && !(b == 32 || (9 ≤ b && b ≤ 13))) r
        match r.drop inner with
        | 41 :: _ => (i + inner + 2, .variable)
        | _ => (i + inner + 1, .illegal)
      else (i, if n == 0 then .illegal else .variable)

/-- 開きの後のブロックの注釈の本体の長さ。閉じがあればそれまで。 -/
def closeComment : List Nat → Nat → Nat
  | [], n => n
  | 42 :: 47 :: _, n => n + 2
  | _ :: r, n => closeComment r (n + 1)

/-- 一か二バイトの演算子。 -/
def opToken (n : Nat) (text : String) : Option (Nat × TokenKind) := some (n, .op text)

/-- 空でないバイトの先頭の字句の長さと種類。`none` は与えた長さの空白か注釈。 -/
def tokenAt (cs : List Nat) : Nat × Option TokenKind :=
  match cs with
  | [] => (0, some .illegal)
  | c :: rest =>
    let wrap (p : Nat × TokenKind) : Nat × Option TokenKind := (p.1, some p.2)
    if isSpaceByte c then (1, none)
    else if c == 45 then
      match rest with
      | 45 :: r => (2 + runLength (· != 10) r, none)
      | 62 :: 62 :: _ => wrap (3, .op "->>")
      | 62 :: _ => wrap (2, .op "->")
      | _ => wrap (1, .op "-")
    else if c == 47 then
      match rest with
      | 42 :: r => (2 + closeComment r 0, none)
      | _ => wrap (1, .op "/")
    else if c == 40 then wrap (1, .op "(")
    else if c == 41 then wrap (1, .op ")")
    else if c == 59 then wrap (1, .op ";")
    else if c == 43 then wrap (1, .op "+")
    else if c == 42 then wrap (1, .op "*")
    else if c == 37 then wrap (1, .op "%")
    else if c == 44 then wrap (1, .op ",")
    else if c == 38 then wrap (1, .op "&")
    else if c == 126 then wrap (1, .op "~")
    else if c == 61 then wrap (if rest.head? == some 61 then 2 else 1, .op "=")
    else if c == 60 then
      match rest with
      | 61 :: _ => wrap (2, .op "<=")
      | 62 :: _ => wrap (2, .op "!=")
      | 60 :: _ => wrap (2, .op "<<")
      | _ => wrap (1, .op "<")
    else if c == 62 then
      match rest with
      | 61 :: _ => wrap (2, .op ">=")
      | 62 :: _ => wrap (2, .op ">>")
      | _ => wrap (1, .op ">")
    else if c == 33 then
      if rest.head? == some 61 then wrap (2, .op "!=") else wrap (1, .illegal)
    else if c == 124 then
      if rest.head? == some 124 then wrap (2, .op "||") else wrap (1, .op "|")
    else if c == 46 then
      match rest with
      | d :: _ => if isDigitByte d then wrap (numberToken cs) else wrap (1, .op ".")
      | [] => wrap (1, .op ".")
    else if c == 39 || c == 34 || c == 96 then
      match quotedLength c rest 1 with
      | some n =>
        wrap (n, if c == 39 then .string else if c == 34 then .doubleQuoted else .quotedName)
      | none => wrap (cs.length, .illegal)
    else if c == 91 then
      let inner := runLength (· != 93) rest
      if inner < rest.length then wrap (inner + 2, .quotedName) else wrap (cs.length, .illegal)
    else if isDigitByte c then wrap (numberToken cs)
    else if c == 63 then wrap (1 + runLength isDigitByte rest, .variable)
    else if c == 36 || c == 64 || c == 35 || c == 58 then wrap (variableToken rest)
    else if (c == 120 || c == 88) && rest.head? == some 39 then
      let digits := runLength isHexByte (rest.drop 1)
      match rest.drop (1 + digits) with
      | 39 :: _ => wrap (3 + digits, if digits % 2 == 0 then .blob else .illegal)
      | _ =>
        let upto := runLength (· != 39) (rest.drop 1)
        wrap (2 + upto + (if upto < (rest.drop 1).length then 1 else 0), .illegal)
    else if c == 0xEF && rest.take 2 == [0xBB, 0xBF] then (3, none)
    else if isLetterByte c || c == 95 || c ≥ 128 then
      let n := 1 + runLength isNameByte rest
      wrap (n, wordKind (cs.take n))
    else wrap (1, .illegal)

/-- 文のテキストの字句。空白と注釈は落とす。テキストは最初の NUL バイトで終わる。 -/
def tokenize (text : List Nat) : List Token :=
  go (text.length + 1) (text.takeWhile (· != 0)) 0
where
  /-- 位置 `pos` から残ったバイトを、燃料とともに分ける。 -/
  go : Nat → List Nat → Nat → List Token
    | 0, _, _ => []
    | _, [], _ => []
    | fuel + 1, cs, pos =>
      let (n, k) := tokenAt cs
      let n := max n 1
      let rest := go fuel (cs.drop n) (pos + n)
      match k with
      | none => rest
      | some k => ⟨k, cs.take n, pos⟩ :: rest

namespace Token

/-- 字句のバイトのテキスト。 -/
def text (t : Token) : String := Text.ofUtf8 t.raw

/-- 字句がこのキーワードかどうか。 -/
def isKeyword (t : Token) (w : String) : Bool := t.kind == .keyword w

/-- 字句がこの演算子かどうか。 -/
def isOp (t : Token) (o : String) : Bool := t.kind == .op o

/-- 字句のすぐ後の位置。 -/
def stop (t : Token) : Nat := t.start + t.raw.length

end Token

/-- 名前か文字列の字句が表す名前: 引用符を除き、二重にした引用符を一つにする。 -/
def dequote (t : List Nat) : List Nat :=
  match t with
  | q :: rest =>
    if q == 39 || q == 34 || q == 96 || q == 91 then
      let close := if q == 91 then 93 else q
      go close rest
    else t
  | [] => []
where
  /-- 閉じる引用符までバイトを写す。 -/
  go (close : Nat) : List Nat → List Nat
    | [] => []
    | c :: rest =>
      if c == close then
        match rest with
        | d :: rest' => if d == close then c :: go close rest' else []
        | [] => []
      else c :: go close rest

/-- BLOB のリテラル `x'…'` のバイト。 -/
def blobBytes (raw : List Nat) : List Nat :=
  let digits := (raw.drop 2).takeWhile isHexByte
  pairs digits
where
  /-- 数字を二つずつ読む。 -/
  pairs : List Nat → List Nat
    | a :: b :: rest => (16 * hexByteValue a + hexByteValue b) :: pairs rest
    | _ => []

end HttpCaching.Sql
