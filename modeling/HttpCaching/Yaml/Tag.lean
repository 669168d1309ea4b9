import HttpCaching.Yaml.Timestamp
/-!
# スカラーの型

引用符のないスカラーは文字面から型が決まる (YAML 1.2 のコアスキーマに近い規則)。
空・`~`・`null` は null、`true`/`false` の三つの綴りは真偽値、基数接頭辞つきの 64 ビット
整数は int、十進の小数は float、`YYYY-M-D` で始まる日時は timestamp、`<<` は合併キー、
それ以外はすべて文字列。引用符つき・ブロックのスカラーは常に文字列。
型の名前は型の合わない値を報告するときにだけ現れる。明示されたタグは短い名前
(`tag:yaml.org,2002:` を `!!` にしたもの) で持つ。
-/
namespace HttpCaching.Yaml

/-- 節点の型。 -/
inductive Tag where
  | null
  | bool
  | int
  | float
  | timestamp
  | str
  | merge
  | seq
  | map
  | binary
  /-- ほかのタグ。短い名前で。 -/
  | named (short : String)
  deriving DecidableEq, Repr, Inhabited

/-- 型の短い名前。`!!int` のように。 -/
def Tag.short : Tag → String
  | .null => "!!null"
  | .bool => "!!bool"
  | .int => "!!int"
  | .float => "!!float"
  | .timestamp => "!!timestamp"
  | .str => "!!str"
  | .merge => "!!merge"
  | .seq => "!!seq"
  | .map => "!!map"
  | .binary => "!!binary"
  | .named s => s

namespace Tag

/-- 短いタグの名前が表す型。 -/
def ofShort (s : String) : Tag :=
  match s with
  | "!!null" => .null
  | "!!bool" => .bool
  | "!!int" => .int
  | "!!float" => .float
  | "!!timestamp" => .timestamp
  | "!!str" => .str
  | "!!merge" => .merge
  | "!!seq" => .seq
  | "!!map" => .map
  | "!!binary" => .binary
  | _ => .named s

/-- 標準のタグの接頭辞。短い名前では `!!` と書く。 -/
def standardPrefix : String := "tag:yaml.org,2002:"

/-- 完全なタグが表す型。 -/
def ofFull (full : String) : Tag :=
  if full.startsWith standardPrefix then ofShort ("!!" ++ (full.drop standardPrefix.length).toString)
  else ofShort full

/-- 十進の数字。 -/
def isDigit (c : Char) : Bool := '0' ≤ c && c ≤ '9'

/-- 36 までの基数での数字の値。文字は大文字も小文字も数える。 -/
def digitIn (base : Nat) (c : Char) : Option Nat :=
  let d :=
    if isDigit c then c.toNat - 48
    else if 'a' ≤ c.toLower && c.toLower ≤ 'z' then c.toLower.toNat - 87
    else 99
  if d < base then some d else none

/-- ある基数の数字の並びの値。空の並びは零。 -/
def digitsIn (base : Nat) (cs : List Char) : Option Nat :=
  cs.foldlM (fun acc c => (digitIn base c).map (acc * base + ·)) 0

/-- 先頭の符号を取り外したもの。 -/
def splitSign : List Char → Bool × List Char
  | '-' :: r => (true, r)
  | '+' :: r => (false, r)
  | r => (false, r)

/-- 接頭辞が基数を与える符号なしの数: 少なくとももう一文字の前の `0b`、`0o`、`0x`
(大文字も小文字も)、それ以外で先頭の `0` なら八進、それ以外は十進。 -/
def prefixedValue? : List Char → Option Nat
  | [] => none
  | '0' :: c :: d :: r =>
    match c.toLower with
    | 'b' => digitsIn 2 (d :: r)
    | 'o' => digitsIn 8 (d :: r)
    | 'x' => digitsIn 16 (d :: r)
    | _ => digitsIn 8 (c :: d :: r)
  | '0' :: r => digitsIn 8 r
  | r => digitsIn 10 r

/-- 符号を与えて、値が符号つき 64 ビットの語に収まるかどうか。 -/
def fitsSigned (negative : Bool) (v : Nat) : Bool :=
  if negative then v ≤ Nat.pow 2 63 else v < Nat.pow 2 63

/-- 決まった基数の符号つきの数: 符号、少なくとも一つの数字、符号つき 64 ビットに収まる。 -/
def signedIn (base : Nat) (cs : List Char) : Bool :=
  let (negative, body) := splitSign cs
  !body.isEmpty && (digitsIn base body).any (fitsSigned negative)

/-- 決まった基数の符号なしの数: 少なくとも一つの数字、64 ビットに収まる。 -/
def unsignedIn (base : Nat) (cs : List Char) : Bool :=
  !cs.isEmpty && (digitsIn base cs).any (· < Nat.pow 2 64)

/-- 下線のない文字列が整数かどうか: 接頭辞が基数を与える符号つきの数、2^64 - 1
までの符号なしの数、または符号つきの数の前の二進か八進の接頭辞。 -/
def isInteger (cs : List Char) : Bool :=
  let (negative, body) := splitSign cs
  let signed := (prefixedValue? body).any (fitsSigned negative)
  let unsigned := (prefixedValue? cs).any (· < Nat.pow 2 64)
  let prefixed := match cs with
    | '0' :: 'b' :: r => signedIn 2 r || unsignedIn 2 r
    | '-' :: '0' :: 'b' :: r => signedIn 2 ('-' :: r)
    | '0' :: 'o' :: r => signedIn 8 r || unsignedIn 8 r
    | '-' :: '0' :: 'o' :: r => signedIn 8 ('-' :: r)
    | _ => false
  signed || unsigned || prefixed

/-- (下線のない) 整数の文字列が符号つき 64 ビットの値を持つかどうか: 接頭辞が与える基数で、
または二進か八進の接頭辞の後の符号つきの数として。ほかは符号つきの範囲を超えた符号なしの値。 -/
def isSignedInteger (cs : List Char) : Bool :=
  let (negative, body) := splitSign cs
  (prefixedValue? body).any (fitsSigned negative) ||
    match cs with
    | '0' :: 'b' :: r => signedIn 2 r
    | '-' :: '0' :: 'b' :: r => signedIn 2 ('-' :: r)
    | '0' :: 'o' :: r => signedIn 8 r
    | '-' :: '0' :: 'o' :: r => signedIn 8 ('-' :: r)
    | _ => false

/-- 正の数の十進の桁数。 -/
def digitCount (n : Nat) : Nat := (Nat.toDigits 10 n).length

/-- `m · 10^e` を丸めると有限の倍精度の最大値を超えるかどうか: `2^1024 - 2^970` から。 -/
def overflows (m : Nat) (e : Int) : Bool :=
  if m == 0 then false
  else
    let top := (digitCount m : Int) - 1 + e
    if top < 308 then false
    else if top > 308 then true
    else
      let limit : Nat := Nat.pow 2 1024 - Nat.pow 2 970
      if e ≥ 0 then m * Nat.pow 10 e.toNat ≥ limit else m ≥ limit * Nat.pow 10 (-e).toNat

/-- 十進 `digits[.digits][e[sign]digits]` (指数の前に少なくとも一つの数字、前に符号があってもよい)
の数字と指数。正確に読む。 -/
def decimal? (cs : List Char) : Option (Nat × Int) :=
  let (_, cs) := splitSign cs
  let whole := cs.takeWhile isDigit
  let rest := cs.dropWhile isDigit
  let (point, frac, rest) := match rest with
    | '.' :: r => (true, r.takeWhile isDigit, r.dropWhile isDigit)
    | r => (false, [], r)
  if whole.isEmpty && !(point && !frac.isEmpty) then none
  else
    let exp : Option Int := match rest with
      | [] => some 0
      | e :: r =>
        if e == 'e' || e == 'E' then
          let (negative, ds) := splitSign r
          if ds.isEmpty || !ds.all isDigit then none
          else
            let v : Int := ((digitsIn 10 ds).getD 0 : Nat)
            some (if negative then -v else v)
        else none
    exp.map fun x => ((digitsIn 10 (whole ++ frac)).getD 0, x - frac.length)

/-- 文字列が、あふれずに読める十進の形の倍精度かどうか。 -/
def isFloat (cs : List Char) : Bool :=
  match decimal? cs with
  | some (m, e) => !overflows m e
  | none => false

/-- 下線が二つの数字の間にだけあるかどうか。 -/
def underscoresBetweenDigits (cs : List Char) : Bool :=
  go ' ' cs
where
  /-- 前の文字を知っての確かめ。 -/
  go (before : Char) : List Char → Bool
    | [] => true
    | '_' :: r => isDigit before && (r.head?.map isDigit).getD false && go '_' r
    | c :: r => go c r

/-- 小数点から書いた倍精度: `.digits[e[sign]digits]`。下線は数字の間。 -/
def isPointFloat (cs : List Char) : Bool :=
  cs.head? == some '.' && underscoresBetweenDigits cs &&
    isFloat (cs.filter (· != '_'))

/-- 日時: 日付 `YYYY-M-D` だけか、`T`/`t` と時計と時間帯をつけたものか、空白と時計をつけたもの。 -/
def isTimestamp (cs : List Char) : Bool := (Timestamp.read? cs).isSome

/-- 文字列が解決する型: null、真偽値、特別な倍精度は綴りで、それから最初の文字によって小数点
からの倍精度、日時 (`timestamps` のとき)、整数、倍精度。ほかはすべて文字列。 -/
def resolve (timestamps : Bool) (text : String) : Tag :=
  let cs := text.toList
  if ["", "~", "null", "Null", "NULL"].contains text then .null
  else if ["true", "True", "TRUE", "false", "False", "FALSE"].contains text then .bool
  else if [".nan", ".NaN", ".NAN", ".inf", ".Inf", ".INF", "+.inf", "+.Inf", "+.INF",
      "-.inf", "-.Inf", "-.INF"].contains text then .float
  else match cs.head? with
    | some '.' => if isPointFloat cs then .float else .str
    | some c =>
      if isDigit c || c == '+' || c == '-' then
        let plain := cs.filter (· != '_')
        if timestamps && isTimestamp cs then .timestamp
        else if isInteger plain then .int
        else if isFloat plain then .float
        else .str
      else .str
    | none => .null

/-- タグのない平のスカラーの型: `<<` は合併キー、ほかはすべて解決する。 -/
def ofPlain (text : String) : Tag :=
  if text == "<<" then .merge else resolve true text

end Tag

end HttpCaching.Yaml
