import HttpCaching.Field.Token
/-!
# ヘッダー

フィールド名ごとに値の列を持つ表。名前は正規形で持つ: トークン文字だけの名前は、先頭と
`-` の直後を大文字、残りを小文字にする (`cache-control` → `Cache-Control`)。
トークン文字以外を含む名前はそのまま。名前は最初に入った順に並ぶ。
-/
namespace HttpCaching.Http

/-- フィールド名の正規形: どの文字もトークンの文字なら、最初の英字とハイフンの後の英字を大文字に、
ほかを小文字にする。それ以外の名前はそのまま。 -/
def canonicalName (name : String) : String :=
  if !name.toList.all Field.isTokenChar then name
  else
    let step : Bool × List Char → Char → Bool × List Char := fun (upper, acc) c =>
      let c' := if upper then c.toUpper else c.toLower
      (c' == '-', c' :: acc)
    String.ofList (name.toList.foldl step (true, [])).2.reverse

/-- ヘッダーのフィールド: 正規形の名前とその値。名前が最初に足された順に並ぶ。 -/
structure Header where
  fields : List (String × List String)
  deriving DecidableEq, Inhabited, Repr

namespace Header

/-- フィールドがない。 -/
def empty : Header := ⟨[]⟩

/-- フィールドの値。 -/
def values (h : Header) (name : String) : List String :=
  ((h.fields.find? (·.1 == canonicalName name)).map (·.2)).getD []

/-- フィールドの最初の値。なければ空のテキスト。 -/
def get (h : Header) (name : String) : String := ((h.values name).head?).getD ""

/-- フィールドがあるかどうか。 -/
def contains (h : Header) (name : String) : Bool := h.fields.any (·.1 == canonicalName name)

/-- フィールドの値。フィールドがなければ `none`。 -/
def field? (h : Header) (name : String) : Option (List String) :=
  if h.contains name then some (h.values name) else none

/-- フィールドに値を一つ足す。 -/
def add (h : Header) (name value : String) : Header :=
  let k := canonicalName name
  if h.fields.any (·.1 == k) then
    ⟨h.fields.map fun f => if f.1 == k then (f.1, f.2 ++ [value]) else f⟩
  else ⟨h.fields ++ [(k, [value])]⟩

/-- フィールドを値一つに置き換える。 -/
def set (h : Header) (name value : String) : Header :=
  let k := canonicalName name
  if h.fields.any (·.1 == k) then
    ⟨h.fields.map fun f => if f.1 == k then (f.1, [value]) else f⟩
  else ⟨h.fields ++ [(k, [value])]⟩

/-- フィールドを除く。 -/
def erase (h : Header) (name : String) : Header :=
  ⟨h.fields.filter (·.1 != canonicalName name)⟩

/-- 名前と値の組から、順に足して作るヘッダー。 -/
def ofPairs (pairs : List (String × String)) : Header :=
  pairs.foldl (fun h p => h.add p.1 p.2) empty

end Header

end HttpCaching.Http
