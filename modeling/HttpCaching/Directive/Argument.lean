import HttpCaching.Field.DeltaSeconds
/-!
# ディレクティブの引数

引数は三つの形のどれか: 引数なし (`flag`)、数 (`int`)、テキスト (`token`)。
ディレクティブ名ごとに受け付ける引数の種類 (`ArgumentClass`) が決まっている。
-/
namespace HttpCaching

/-- あるディレクティブの引数。 -/
inductive Argument where
  /-- `no-store` のように、ディレクティブだけで立つ。 -/
  | flag
  /-- `max-age=600` のような数。 -/
  | int (n : Int64)
  /-- `private="Set-Cookie"` のようなテキスト。引用符はその一部ではない。 -/
  | token (s : String)
  deriving DecidableEq, Inhabited, Repr

namespace Argument

/-- 数としての引数: 数そのものか、ASCII の数字のトークンを delta-seconds として読んだもの。 -/
def number? : Argument → Option Int64
  | .flag => none
  | .int n => some n
  | .token s => Field.readDeltaSeconds? s

/-- テキストとしての引数: 数の十進表記か、トークン。引数なしにはない。 -/
def text? : Argument → Option String
  | .flag => none
  | .int n => some (toString n.toInt)
  | .token s => some s

/-- 引数のテキスト。引数なしなら空。 -/
def text (a : Argument) : String := a.text?.getD ""

/-- 引数の形の名前。 -/
def kindName : Argument → String
  | .flag => "flag"
  | .int _ => "int"
  | .token _ => "token"

end Argument

/-- ディレクティブがどんな引数をとるか。 -/
inductive ArgumentClass where
  /-- 拡張のディレクティブ: 何でもよく、与えられたとおりに保存する。 -/
  | any
  /-- 存在だけ: 引数はない。 -/
  | flag
  /-- delta-seconds。 -/
  | delta
  /-- 省いてもよいフィールド名の一覧。 -/
  | fields
  /-- `max-stale`: 省いてもよい delta-seconds。ないときはどんな古さでもよい。 -/
  | stale
  deriving DecidableEq, Repr

/-- ディレクティブ名の引数の種類。RFC 9111 §5.2、RFC 5861、RFC 8246 のディレクティブについて決まり、
ほかの名前はどれも拡張。 -/
def ArgumentClass.of : String → ArgumentClass
  | "max-age" | "min-fresh" | "s-maxage" | "stale-while-revalidate" | "stale-if-error" => .delta
  | "max-stale" => .stale
  | "no-cache" | "private" => .fields
  | "no-store" | "no-transform" | "only-if-cached" | "must-revalidate" | "must-understand"
  | "proxy-revalidate" | "public" | "immutable" => .flag
  | _ => .any

/-- ディレクティブ: 名前とその引数。 -/
structure Directive where
  name : String
  arg : Argument
  deriving DecidableEq, Inhabited, Repr

end HttpCaching
