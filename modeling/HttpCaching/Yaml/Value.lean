import HttpCaching.Yaml.Tag
import HttpCaching.Decimal.Nearest
import HttpCaching.Text.Literal
/-!
# 型の指定なしに読んだ値

読み先の型が決まっていない節点は、スカラーなら解決された型の値 (null・真偽値・符号つき
64 ビット整数・その範囲を超える符号なし整数・倍精度・文字列・日時) に、列は値の列に、写像は
表になる。キーがすべて文字列 (か `<<`) の写像は文字列をキーとする表、それ以外は任意の値を
キーとする表。表の項目はキーの順に並べて持つ。

- キーとして等しいのは、同じ種類で同じ値のもの。NaN はどれとも等しくなく、±0 は等しい。
  日時は協定世界時どうし・機械の時間帯どうしで時計の読みが同じときだけ等しく、固定のずれを
  持つ日時はどれとも等しくない。
- キーの順は種類の順 (null・符号なし整数・整数・倍精度・真偽値・文字列・日時)、同じ種類の
  中では値の順。文字列はバイトの辞書順、日時は秒未満・時点・時間帯の順。
- `literal` は値を式の形で書く。列と表は型の名前の後に中身を波括弧で囲み、文字列は
  二重引用符、符号なし整数は `0x` つきの十六進、倍精度は最短の十進表記で書く。
-/
namespace HttpCaching.Yaml

/-- 目当ての型なしで読んだ値。 -/
inductive Value where
  | null
  | bool (b : Bool)
  /-- 符号つき 64 ビットの範囲の整数。 -/
  | int (i : Int)
  /-- 符号つき 64 ビットの範囲を超え、2^64 より小さい整数。 -/
  | word (n : Nat)
  | float (x : Decimal.Double)
  /-- 文字列。そのバイトで。 -/
  | text (bytes : List Nat)
  | time (t : Timestamp)
  | list (items : List Value)
  /-- 項目をキーの順に並べた表。キーが文字列なら `byText`。 -/
  | table (byText : Bool) (entries : List (Value × Value))

namespace Value

/-- 決まった基数の符号つきの数の値、`unsignedToo` なら符号なしの数の値も: 符号、
それから少なくとも一つの数字。 -/
def ofFixedBase (base : Nat) (unsignedToo : Bool) (cs : List Char) : Option Value :=
  let (negative, body) := Tag.splitSign cs
  if body.isEmpty then none
  else match Tag.digitsIn base body with
    | some v =>
      if Tag.fitsSigned negative v then some (.int (if negative then -(v : Int) else v))
      else if unsignedToo && cs.head? != some '+' && !negative && v < Nat.pow 2 64 then
        some (.word v)
      else none
    | none => none

/-- 下線のない整数の文字列の値: 接頭辞が基数を与える符号つきの数、それ以外なら符号なしの数、
それ以外なら符号つきの数の前の二進か八進の接頭辞。 -/
def ofInteger (cs : List Char) : Value :=
  let (negative, body) := Tag.splitSign cs
  match (Tag.prefixedValue? body).filter (Tag.fitsSigned negative) with
  | some v => .int (if negative then -(v : Int) else v)
  | none =>
    match (Tag.prefixedValue? cs).filter (· < Nat.pow 2 64) with
    | some v => .word v
    | none =>
      let fixed := match cs with
        | '0' :: 'b' :: r => ofFixedBase 2 true r
        | '-' :: '0' :: 'b' :: r => ofFixedBase 2 false ('-' :: r)
        | '0' :: 'o' :: r => ofFixedBase 8 true r
        | '-' :: '0' :: 'o' :: r => ofFixedBase 8 false ('-' :: r)
        | _ => none
      fixed.getD (.text (Text.bytesOf (String.ofList cs)))

/-- 倍精度の文字列の値: 特別な綴り、それ以外は (下線のない) 十進を最も近い倍精度に丸めたもの。 -/
def ofFloatText (text : String) : Value :=
  if [".nan", ".NaN", ".NAN"].contains text then .float .nan
  else if [".inf", ".Inf", ".INF", "+.inf", "+.Inf", "+.INF"].contains text then
    .float (.infinity false)
  else if ["-.inf", "-.Inf", "-.INF"].contains text then .float (.infinity true)
  else
    let plain := text.toList.filter (· != '_')
    match Tag.decimal? plain with
    | some (m, e) => .float (.finite (Decimal.Binary.ofDecimal (plain.head? == some '-') m e))
    | none => .text (Text.bytesOf text)

/-- 型に解決した文字列の値。 -/
def ofResolved (tag : Tag) (text : String) : Value :=
  match tag with
  | .null => .null
  | .bool => .bool (["true", "True", "TRUE"].contains text)
  | .int => ofInteger (text.toList.filter (· != '_'))
  | .float => ofFloatText text
  | .timestamp =>
    match Timestamp.read? text.toList with
    | some t => .time t
    | none => .text (Text.bytesOf text)
  | _ => .text (Text.bytesOf text)

/-- 倍精度を求めるタグがするように、整数を倍精度にしたもの。 -/
def toFloat : Value → Value
  | .int i => .float (Decimal.Double.ofInt i)
  | v => v

/-- 値が列か表か。それらはキーになれない。 -/
def isCollection : Value → Bool
  | .list _ | .table _ _ => true
  | _ => false

/-- どんな値も持つ型の名前。 -/
def anyName : String := "interface \x7b\x7d"

/-- 値の型の名前。 -/
def typeName : Value → String
  | .null => anyName
  | .bool _ => "bool"
  | .int _ => "int"
  | .word _ => "uint64"
  | .float _ => "float64"
  | .text _ => "string"
  | .time _ => "time.Time"
  | .list _ => "[]" ++ anyName
  | .table true _ => "map[string]" ++ anyName
  | .table false _ => "map[" ++ anyName ++ "]" ++ anyName

/-- 二つのキーが等しいかどうか。 -/
def sameKey : Value → Value → Bool
  | .null, .null => true
  | .bool a, .bool b => a == b
  | .int a, .int b => a == b
  | .word a, .word b => a == b
  | .float a, .float b => a.same b
  | .text a, .text b => a == b
  | .time a, .time b => a == b && !(a.zone matches .fixed _)
  | _, _ => false

/-- キーの順での値の種類の位置。 -/
def kindRank : Value → Nat
  | .null => 0
  | .word _ => 1
  | .int _ => 2
  | .float _ => 3
  | .bool _ => 4
  | .text _ => 5
  | .time _ => 6
  | .list _ => 7
  | .table _ _ => 8

/-- 等しい日時の時間帯の間での時間帯の位置。 -/
def zoneRank : Zone → Nat
  | .utc => 0
  | .machine => 1
  | .fixed _ => 2

/-- キーの順: 種類で、それから値で。 -/
def keyOrder (a b : Value) : Ordering :=
  match a, b with
  | .bool x, .bool y => compare x.toNat y.toNat
  | .int x, .int y => compare x y
  | .word x, .word y => compare x y
  | .float x, .float y => x.compareTo y
  | .text x, .text y => Text.compareBytes x y
  | .time x, .time y =>
    (compare x.nanos y.nanos).then
      ((compare x.instant y.instant).then (compare (zoneRank x.zone) (zoneRank y.zone)))
  | _, _ => compare a.kindRank b.kindRank

/-- 項目をキーの順に置く。上にないキーのどれよりも後に。 -/
def placeEntry (k v : Value) : List (Value × Value) → List (Value × Value)
  | [] => [(k, v)]
  | e :: rest => if keyOrder k e.1 == .lt then (k, v) :: e :: rest else e :: placeEntry k v rest

/-- 表の項目に項目を置く: 等しいキーは値ごと置き換え、新しいキーはキーの順の位置につく。 -/
def insertEntry (k v : Value) (entries : List (Value × Value)) : List (Value × Value) :=
  if entries.any (sameKey ·.1 k) then
    entries.map fun e => if sameKey e.1 k then (k, v) else e
  else placeEntry k v entries

/-- 月の名前。 -/
def monthNames : List String :=
  ["January", "February", "March", "April", "May", "June", "July", "August", "September",
    "October", "November", "December"]

/-- 日時を、それを作る呼び出しとして書いたもの。 -/
def timeLiteral (t : Timestamp) : String :=
  let zone := match t.zone with
    | .utc => "time.UTC"
    | .machine => "time.Local"
    | .fixed _ => "time.Location(\"\")"
  "time.Date(" ++ toString t.year ++ ", time." ++ monthNames.getD (t.month - 1) "" ++ ", " ++
    ", ".intercalate ([t.day, t.hour, t.minute, t.second, t.nanos].map toString) ++ ", " ++
    zone ++ ")"

/-- 倍精度の配置: 十進の指数が -4 から 5 なら位取りで書く。 -/
def floatLayout : Decimal.Layout := ⟨-4, 5, 2⟩

mutual

/-- 値を式として書いたもの。 -/
def literal : Value → String
  | .null => anyName ++ "(nil)"
  | .bool b => if b then "true" else "false"
  | .int i => toString i
  | .word n => "0x" ++ String.ofList (Nat.toDigits 16 n)
  | .float x => x.render floatLayout
  | .text bs => Text.quoteOctets bs
  | .time t => timeLiteral t
  | .list items => "[]" ++ anyName ++ "\x7b" ++ ", ".intercalate (literals items) ++ "\x7d"
  | .table byText entries =>
    (if byText then "map[string]" else "map[" ++ anyName ++ "]") ++ anyName ++ "\x7b" ++
      ", ".intercalate (entryLiterals entries) ++ "\x7d"

/-- 値を式として書いたもの。 -/
def literals : List Value → List String
  | [] => []
  | v :: vs => literal v :: literals vs

/-- 項目を `key:value` として書いたもの。 -/
def entryLiterals : List (Value × Value) → List String
  | [] => []
  | (k, v) :: es => (literal k ++ ":" ++ literal v) :: entryLiterals es

end

end Value

end HttpCaching.Yaml
