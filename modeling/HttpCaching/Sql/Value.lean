import HttpCaching.Sql.Number
import HttpCaching.Text.Utf8
/-!
# 表の値と比べ方

値は NULL・64 ビットの整数・倍精度の実数・テキスト・バイト列のどれか。テキストはバイトの
並びとして持つ (UTF-8 でないバイトは `Text.byteChar` の文字で運ぶ)。

* 値の並びは NULL、数 (整数と実数は数として正確に比べる)、テキスト (照合で比べる)、
  バイト列 (バイトの辞書順、長さ) の順。
* 照合は BINARY (バイト順)、NOCASE (ASCII の大文字を小文字にしてから)、RTRIM (末尾の
  空白を除いてから) の三つ。
* 列の型の名前から親和性が決まる。`INT` を含めば INTEGER、`CHAR`・`CLOB`・`TEXT` を
  含めば TEXT、`BLOB` を含むか型がなければ BLOB、`REAL`・`FLOA`・`DOUB` を含めば REAL、
  それ以外は NUMERIC。
* 親和性は値を保存するときに当てる。数の親和性はテキストが数の書き方なら数にし (整数に
  なれる実数は整数に)、REAL は数を実数にする。TEXT は数をテキストに書く (実数は 15 桁)。
* 比べるときの親和性は、数の側ならテキストを数として読み、TEXT なら数をテキストにする。
-/
namespace HttpCaching.Sql

/-- 表が持つか式が与える値。 -/
inductive Value where
  | null
  | integer (n : Int)
  | real (x : Float)
  /-- テキスト。バイトは `Text.ofUtf8` と同じように運ぶ。 -/
  | text (s : String)
  | blob (bytes : List Nat)
  deriving Inhabited

/-- 列の宣言した型が、値をどう保ちたいか。 -/
inductive Affinity where
  | blob
  | text
  | numeric
  | integer
  | real
  deriving DecidableEq, Repr, Inhabited

/-- テキストを比べる規則。 -/
inductive Collation where
  | binary
  | nocase
  | rtrim
  deriving DecidableEq, Repr, Inhabited

namespace Collation

/-- 名前の照合順序。大文字小文字は問わない。 -/
def ofName? (name : String) : Option Collation :=
  match (Text.bytesOf name).map fun b => if 65 ≤ b && b ≤ 90 then b + 32 else b with
  | [98, 105, 110, 97, 114, 121] => some .binary
  | [110, 111, 99, 97, 115, 101] => some .nocase
  | [114, 116, 114, 105, 109] => some .rtrim
  | _ => none

/-- 辞書順のバイト列。接頭辞が先。 -/
def compareBytes : List Nat → List Nat → Ordering
  | [], [] => .eq
  | [], _ :: _ => .lt
  | _ :: _, [] => .gt
  | a :: as, b :: bs => if a < b then .lt else if b < a then .gt else compareBytes as bs

/-- ASCII の大文字の小文字のバイト。ほかのバイトは保つ。 -/
def foldByte (b : Nat) : Nat := if 65 ≤ b && b ≤ 90 then b + 32 else b

/-- 二つのテキストをバイトで比べる。 -/
def compare : Collation → List Nat → List Nat → Ordering
  | .binary, a, b => compareBytes a b
  | .nocase, a, b => compareBytes (a.map foldByte) (b.map foldByte)
  | .rtrim, a, b =>
    let trim (bs : List Nat) := (bs.reverse.dropWhile (· == 32)).reverse
    compareBytes (trim a) (trim b)

end Collation

namespace Affinity

/-- 宣言した型の親和性: 来る順に文字から読み、最初の `INT` がすぐに勝ち、`CHAR`、`CLOB`、`TEXT` は
TEXT を、`BLOB` はテキストの型が先に来ていなければ BLOB を、`REAL`、`FLOA`、`DOUB`
はほかが先に来ていなければ REAL を与える。どれもない型は NUMERIC、型がまったくなければ BLOB。 -/
def ofType (declared : String) : Affinity :=
  if declared.isEmpty then .blob
  else go ((Text.bytesOf declared).map Collation.foldByte) [] .numeric
where
  /-- 最後に見た四つとともにバイトを読む。 -/
  go : List Nat → List Nat → Affinity → Affinity
    | [], _, aff => aff
    | b :: rest, window, aff =>
      let w := (window ++ [b]).drop (if window.length ≥ 4 then 1 else 0)
      let last3 := w.drop (w.length - 3)
      if last3 == [105, 110, 116] then .integer
      else if w == [99, 104, 97, 114] || w == [99, 108, 111, 98] || w == [116, 101, 120, 116] then
        go rest w .text
      else if w == [98, 108, 111, 98] && (aff == .numeric || aff == .real) then go rest w .blob
      else if (w == [114, 101, 97, 108] || w == [102, 108, 111, 97] || w == [100, 111, 117, 98]) &&
          aff == .numeric then go rest w .real
      else go rest w aff

/-- 親和性が数のものかどうか。 -/
def isNumeric : Affinity → Bool
  | .numeric | .integer | .real => true
  | _ => false

end Affinity

namespace Value

/-- `typeof` が与える、値の型の名前。 -/
def typeName : Value → String
  | .null => "null"
  | .integer _ => "integer"
  | .real _ => "real"
  | .text _ => "text"
  | .blob _ => "blob"

/-- 値が NULL かどうか。 -/
def isNull : Value → Bool
  | .null => true
  | _ => false

/-- テキストの文字か BLOB のバイト。そこから数を読むために。 -/
def charsOf : Value → List Char
  | .text s => s.toList
  | .blob bs => (Text.ofUtf8 bs).toList
  | _ => []

/-- 大きさの小さい整数か零であるときの、実数が表す数: そうした実数はその整数とみなす。 -/
def sameAsInt (x : Float) (i : Int) : Bool :=
  x == 0.0 || (Float.ofInt i == x && -2251799813685248 ≤ i && i < 2251799813685248)

/-- テキスト全体が数であるとき、数として読んだテキストの値: 収まる整数として書いていれば整数、
それ以外は実数。`tryInt` は、64 ビットの範囲の真に内側の整数値の実数も整数にする。 -/
def ofNumberText? (cs : List Char) (tryInt : Bool) : Option Value :=
  let t := readNumber cs
  let code := t.code
  if code ≤ 0 then none
  else
    let x := t.value
    let asInt : Option Int :=
      if code == 1 then
        let i := truncateFloat x
        if sameAsInt x i then some i
        else
          let (n, k) := readInteger cs
          if k == 0 then some n else none
      else none
    match asInt with
    | some n => some (.integer n)
    | none =>
      if tryInt then
        match wholeValue? x with
        | some n => some (.integer n)
        | none => some (.real x)
      else some (.real x)

/-- 数のテキスト: 整数は十進、実数は十五桁の有効数字。 -/
def numberText : Value → Option String
  | .integer n => some (toString n)
  | .real x => some (renderReal x)
  | _ => none

/-- ある親和性の列に保つ値。 -/
def withAffinity (a : Affinity) (v : Value) : Value :=
  match a, v with
  | .blob, v => v
  | .text, .integer n => .text (toString n)
  | .text, .real x => .text (renderReal x)
  | .text, v => v
  | .real, .integer n => .real (Float.ofInt n)
  | .real, .text s =>
    match ofNumberText? s.toList true with
    | some (.integer n) => .real (Float.ofInt n)
    | some w => w
    | none => .text s
  | .real, v => v
  | _, .text s => (ofNumberText? s.toList true).getD (.text s)
  | _, .real x =>
    match wholeValue? x with
    | some n => .integer n
    | none => .real x
  | _, v => v

/-- 親和性のもとの比較が見る値: 数の親和性は純粋なテキストを数として読み、TEXT
は数をテキストとして書く。 -/
def forComparison (a : Affinity) (v : Value) : Value :=
  match a, v with
  | .text, .integer n => .text (toString n)
  | .text, .real x => .text (renderReal x)
  | .numeric, .text s | .integer, .text s | .real, .text s =>
    (ofNumberText? s.toList false).getD (.text s)
  | _, v => v

/-- 64 ビットの整数と実数を正確に比べる。 -/
def compareIntReal (i : Int) (r : Float) : Ordering :=
  if r < -9223372036854775808.0 then .gt
  else if r ≥ 9223372036854775808.0 then .lt
  else
    let y := truncateFloat r
    if i < y then .lt
    else if i > y then .gt
    else
      let s := Float.ofInt i
      if s < r then .lt else if s > r then .gt else .eq

/-- テキストのバイト。 -/
def textBytes (s : String) : List Nat := Text.bytesOf s

/-- 二つの値を比べる: NULL が先、それから数、照合順序によるテキスト、BLOB。 -/
def compare (c : Collation) : Value → Value → Ordering
  | .null, .null => .eq
  | .null, _ => .lt
  | _, .null => .gt
  | .integer a, .integer b => Ord.compare a b
  | .real a, .real b => if a < b then .lt else if a > b then .gt else .eq
  | .integer a, .real b => compareIntReal a b
  | .real a, .integer b => (compareIntReal b a).swap
  | .integer _, _ => .lt
  | .real _, _ => .lt
  | _, .integer _ => .gt
  | _, .real _ => .gt
  | .text a, .text b => c.compare (textBytes a) (textBytes b)
  | .text _, .blob _ => .lt
  | .blob _, .text _ => .gt
  | .blob a, .blob b => Collation.compareBytes a b

/-- 算術で値が表す数: 数はそのまま、テキストか BLOB はその先頭の数 (整数として読めれば整数、
それ以外は実数)、NULL はなし。 -/
def numeric : Value → Option Value
  | .null => none
  | .integer n => some (.integer n)
  | .real x => some (.real x)
  | v =>
    let cs := v.charsOf
    let t := readNumber cs
    let code := t.code
    if code ≤ 0 then
      let (n, k) := readInteger cs
      if code == 0 && k ≤ 1 then some (.integer n) else some (.real t.value)
    else if code == 1 then
      let (n, k) := readInteger cs
      if k == 0 then some (.integer n) else some (.real t.value)
    else some (.real t.value)

/-- 値が表す実数: テキストはその先頭の数、NULL は零。 -/
def toReal : Value → Float
  | .null => 0.0
  | .integer n => Float.ofInt n
  | .real x => x
  | v => (readNumber v.charsOf).value

/-- 値が表す整数: 実数は切り捨て、テキストはその先頭の整数、NULL は零。 -/
def toInt : Value → Int
  | .null => 0
  | .integer n => n
  | .real x => truncateFloat x
  | v => (readInteger v.charsOf).1

/-- 値が真とみなされるかどうか: 零でない数、先頭の数が零でないテキスト。NULL はどちらでもなく、
`none` を与える。 -/
def truth? : Value → Option Bool
  | .null => none
  | .integer n => some (n != 0)
  | .real x => some (x != 0.0)
  | v => some ((readNumber v.charsOf).value != 0.0)

/-- テキストの関数が見る値のテキスト。NULL は持たない。 -/
def asText? : Value → Option String
  | .null => none
  | .integer n => some (toString n)
  | .real x => some (renderReal x)
  | .text s => some s
  | .blob bs => some (Text.ofUtf8 bs)

/-- BLOB の関数が見る値のバイト。NULL は持たない。 -/
def asBytes? (v : Value) : Option (List Nat) :=
  match v with
  | .blob bs => some bs
  | _ => v.asText?.map Text.bytesOf

end Value

end HttpCaching.Sql
