import HttpCaching.Directive.Argument
import HttpCaching.Decimal.Shortest
import HttpCaching.Time.Duration
/-!
# 書き込みに渡す値

汎用の書き込み `set` が受け取る値。型ごとに変換の規則があり (`Directive.Coerce`)、
拒んだときのメッセージには値を `型名(値)` の形で書く (`Operand.describe`)。
-/
namespace HttpCaching

/-- ディレクティブの汎用の書き込みに渡す値。 -/
inductive Operand where
  /-- 何もない: ディレクティブを除く。 -/
  | none
  | bool (b : Bool)
  /-- 機械の大きさの符号つき整数。 -/
  | int (n : Int64)
  | int32 (n : Int32)
  | int64 (n : Int64)
  /-- 機械の大きさの符号なし整数。 -/
  | uint (n : UInt64)
  | uint32 (n : UInt32)
  | uint64 (n : UInt64)
  | duration (d : Duration)
  | text (s : String)
  | texts (ss : List String)
  /-- フィールドから読んだままの引数。 -/
  | argument (a : Argument)
  | float (x : Float)
  deriving Inhabited

namespace Operand

/-- 浮動小数点数は読み戻せる最少の桁で書く。十進の指数が -4 から 5 までなら位取りで、
それ以外は符号と二桁以上の指数をつける。 -/
def floatLayout : Decimal.Layout := ⟨-4, 5, 2⟩

/-- 誤りの文に出る、値の型の名前。 -/
def typeName : Operand → String
  | .none => "<nil>"
  | .bool _ => "bool"
  | .int _ => "int"
  | .int32 _ => "int32"
  | .int64 _ => "int64"
  | .uint _ => "uint"
  | .uint32 _ => "uint32"
  | .uint64 _ => "uint64"
  | .duration _ => "time.Duration"
  | .text _ => "string"
  | .texts _ => "[]string"
  | .argument _ => "rfc9111.Value"
  | .float _ => "float64"

/-- 誤りの文に出る、値の表記。 -/
def valueText : Operand → String
  | .none => "<nil>"
  | .bool b => if b then "true" else "false"
  | .int n => toString n.toInt
  | .int32 n => toString n.toInt
  | .int64 n => toString n.toInt
  | .uint n => toString n.toNat
  | .uint32 n => toString n.toNat
  | .uint64 n => toString n.toNat
  | .duration d => d.toText
  | .text s => s
  | .texts ss => "[" ++ " ".intercalate ss ++ "]"
  | .argument a => a.text
  | .float x => floatLayout.renderFloat x

/-- `型(値)`: 退けられた値の呼び方。 -/
def describe (o : Operand) : String := o.typeName ++ "(" ++ o.valueText ++ ")"

end Operand

end HttpCaching
