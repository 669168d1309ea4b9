import HttpCaching.Sql.Value
import HttpCaching.Decimal.Shortest
import HttpCaching.Text.Literal
/-!
# 表の値を読み出す

問い合わせの一つの値を、方針の欄 (テキストか 64 ビットの整数) に読み出す。

* テキストへは、テキストとバイト列はそのバイト、整数は十進、実数は最短の十進 (10 進の指数が
  -4 から 5 までは位取り、それ以外は指数つきで指数は 2 桁以上) になる。NULL は読めない。
* 整数へは、整数はそのまま、ほかは上と同じテキストにしてから十進の整数として読む。符号の後に
  数字だけが並ぶものに限り、64 ビットに収まらなければ範囲の誤り。NULL は読めない。
* 読めないときの文は、値の種類の名前 (`float64`・`string`・`[]uint8`) と、引用符で囲んだ
  そのテキストを含む。
-/
namespace HttpCaching.Policy

open Sql

/-- テキストとして読んだ浮動小数点数は、読み戻せる最少の桁で書く。十進の指数が -4 から 5
までなら位取りで、それ以外は二桁以上の指数をつける。 -/
def scanLayout : Decimal.Layout := ⟨-4, 5, 2⟩

/-- 読み手が言う、値の種類の名前。 -/
def kindName : Value → String
  | .null => "nil"
  | .integer _ => "int64"
  | .real _ => "float64"
  | .text _ => "string"
  | .blob _ => "[]uint8"

/-- 値が読まれるテキスト: 数は十進で、テキストとバイト列はそのバイトで。 -/
def scanned : Value → String
  | .null => ""
  | .integer n => toString n
  | .real x => scanLayout.renderFloat x
  | .text s => s
  | .blob bs => Text.ofUtf8 bs

/-- 値を欄に読めないわけ。 -/
inductive ScanProblem where
  /-- NULL を、ある種類 (`string` か `int64`) の欄に読んだ。 -/
  | null (target : String)
  /-- テキストが十進の整数でない値。整数だが範囲の外なら `range`。 -/
  | notInteger (kind : String) (text : String) (range : Bool)

/-- 読み取りの問題の文。 -/
def ScanProblem.message : ScanProblem → String
  | .null t => "converting NULL to " ++ t ++ " is unsupported"
  | .notInteger k s r =>
    "converting driver.Value type " ++ k ++ " (" ++ Text.quoteLiteral s ++ ") to a int64: " ++
      (if r then "value out of range" else "invalid syntax")

/-- 符号をつけてもよい十進の整数を読む。書き方が悪ければ `none`、64 ビットの範囲の外なら `some
none`。 -/
def parseInt64 (s : String) : Option (Option Int) :=
  let (neg, ds) := match s.toList with
    | '-' :: r => (true, r)
    | '+' :: r => (false, r)
    | cs => (false, cs)
  if ds.isEmpty || !ds.all Char.isDigit then none
  else
    let whole : Nat := ds.foldl (fun n c => 10 * n + (c.toNat - 48)) 0
    let n : Int := if neg then -(whole : Int) else whole
    if -9223372036854775808 ≤ n && n ≤ 9223372036854775807 then some (some n) else some none

/-- 値をテキストの欄に読む。 -/
def scanText (v : Value) : Except ScanProblem String :=
  match v with
  | .null => .error (.null "string")
  | v => .ok (scanned v)

/-- 値を 64 ビット整数の欄に読む。 -/
def scanInt64 (v : Value) : Except ScanProblem Int :=
  match v with
  | .null => .error (.null "int64")
  | .integer n => .ok n
  | v =>
    let s := scanned v
    match parseInt64 s with
    | some (some n) => .ok n
    | some none => .error (.notInteger (kindName v) s true)
    | none => .error (.notInteger (kindName v) s false)

end HttpCaching.Policy
