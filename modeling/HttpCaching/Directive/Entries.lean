import HttpCaching.Directive.Argument
import HttpCaching.Field.Token
import HttpCaching.KeyMap
/-!
# 順序付きのディレクティブ表

表は二つの部分で持つ: 名前が初めて入った順の並び `names` と、名前から引数への写像 `values`。
置くと、写像にまだない名前は並びの末尾に付き、写像は新しい引数を持つ。除くのは写像にある
名前だけで、写像から消え、並びからは最初に現れたものが消える。並びに沿って写像を引いた列
(`toList`) が、表の項目を順に見るときの形で、`render` はそれを Cache-Control のフィールド値に
書き出す。写像にない名前は引数なし (`flag`) として読む。
-/
namespace HttpCaching

/-- 名前の並びと、名前から引数への写像からなるディレクティブの表。 -/
structure Entries where
  names : List String
  values : KeyMap String Argument
  deriving DecidableEq, Inhabited, Repr

namespace Entries

/-- ディレクティブのない表。 -/
def empty : Entries := ⟨[], ∅⟩

/-- 名前の引数。 -/
def get? (e : Entries) (name : String) : Option Argument := e.values.get? name

/-- 名前があるかどうか。 -/
def contains (e : Entries) (name : String) : Bool := e.values.contains name

/-- ディレクティブを置く。写像にまだない名前は並びの末尾に付き、写像は新しい引数を持つ。 -/
def put (e : Entries) (d : Directive) : Entries :=
  ⟨if e.contains d.name then e.names else e.names ++ [d.name], e.values.insert d.name d.arg⟩

/-- 名前を除く。写像にある名前だけが、写像から消え、並びからは最初に現れたものが消える。 -/
def erase (e : Entries) (name : String) : Entries :=
  if e.contains name then ⟨e.names.erase name, e.values.erase name⟩ else e

/-- 並びに沿って写像を引いた項目の列。写像にない名前は引数なしと読む。 -/
def toList (e : Entries) : List Directive :=
  e.names.map fun n => ⟨n, (e.get? n).getD .flag⟩

/-- ディレクティブの数: 並びの長さ。 -/
def size (e : Entries) : Nat := e.names.length

/-- ディレクティブを順に置く。 -/
def putAll (e : Entries) (ds : List Directive) : Entries := ds.foldl put e

end Entries

/-- フィールドの値の中でのディレクティブの書き方: `name`、`name=N`、または `name=` とテキスト。
テキストはトークンでなければ引用符で囲み、フィールド一覧のディレクティブではいつも囲む。 -/
def Directive.render (d : Directive) : String :=
  match d.arg with
  | .flag => d.name
  | .int n => d.name ++ "=" ++ toString n.toInt
  | .token s =>
    d.name ++ "=" ++
      (if ArgumentClass.of d.name == .fields then Field.quote s else Field.tokenOrQuoted s)

/-- 表のフィールドの値: ディレクティブをコンマと空白でつないだもの。 -/
def Entries.render (e : Entries) : String :=
  ", ".intercalate (e.toList.map Directive.render)

end HttpCaching
