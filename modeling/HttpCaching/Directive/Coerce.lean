import HttpCaching.Directive.Error
import HttpCaching.Field.Token
/-!
# 値の変換と検査

汎用の書き込みに渡された値を、ディレクティブの引数の種類に合わせて保存する引数に変える。
`none` (何もない値) と `false` は削除、`true` は引数なし (delta-seconds を取るものは拒む)。
整数と時間は数として保存し、delta-seconds は負を拒み、存在だけのものとフィールド一覧は
数を拒む。テキストは delta-seconds なら数として読み、フィールド一覧と拡張ではそのまま保存する。
HTAB 以外の制御文字を含むテキストは拒む。
-/
namespace HttpCaching.Directive

/-- 数に対して保存する引数。 -/
def ofNumber (name : String) (cls : ArgumentClass) (n : Int64) (orig : Operand) :
    Except DirectiveError Argument :=
  match cls with
  | .delta | .stale => if n < 0 then .error (.rejected name orig) else .ok (.int n)
  | .any => .ok (.int n)
  | .flag | .fields => .error (.rejected name orig)

/-- テキストに対して保存する引数。 -/
def ofText (name : String) (cls : ArgumentClass) (s : String) (orig : Operand) :
    Except DirectiveError Argument :=
  match cls with
  | .delta =>
    match Field.readDeltaSeconds? s with
    | some n => .ok (.int n)
    | none => .error (.rejected name orig)
  | .stale =>
    if s == "*" then .ok (.token s)
    else match Field.readDeltaSeconds? s with
      | some n => .ok (.int n)
      | none => .error (.rejected name orig)
  | .fields | .any => if Field.hasControl s then .error (.rejected name orig) else .ok (.token s)
  | .flag => .error (.rejected name orig)

/-- フィールドから読んだ引数を、ディレクティブの種類に照らして確かめる。 -/
def checkArgument (name : String) (cls : ArgumentClass) (a : Argument) :
    Except DirectiveError Argument :=
  match a with
  | .flag => if cls == .delta then .error (.rejected name (.argument a)) else .ok .flag
  | .int n => ofNumber name cls n (.argument a)
  | .token s => ofText name cls s (.argument a)

/-- 符号つき 64 ビット整数の最大値を、符号なしの語で表したもの。 -/
def maxSigned : UInt64 := 9223372036854775807

/-- 汎用の書き込みが保存するもの: 引数を `some` で、ディレクティブを除くなら `none`。 -/
def coerce (name : String) (o : Operand) : Except DirectiveError (Option Argument) :=
  let cls := ArgumentClass.of name
  match o with
  | .none => .ok none
  | .argument a => some <$> checkArgument name cls a
  | .bool b =>
    if !b then .ok none
    else if cls == .delta then .error (.rejected name o)
    else .ok (some .flag)
  | .duration d =>
    if d.ns < 0 then .error (.rejected name o) else some <$> ofNumber name cls d.seconds o
  | .int n | .int64 n => some <$> ofNumber name cls n o
  | .int32 n => some <$> ofNumber name cls n.toInt64 o
  | .uint32 n => some <$> ofNumber name cls n.toUInt64.toInt64 o
  | .uint n | .uint64 n =>
    if n > maxSigned then .error (.rejected name o) else some <$> ofNumber name cls n.toInt64 o
  | .text s => some <$> ofText name cls s o
  | .texts ss =>
    if cls != .fields && cls != .any then .error (.rejected name o)
    else if cls == .fields && !ss.all Field.isToken then .error (.rejected name o)
    else some <$> ofText name cls (", ".intercalate ss) o
  | .float _ => .error (.rejected name o)

end HttpCaching.Directive
