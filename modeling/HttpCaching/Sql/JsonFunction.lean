import HttpCaching.Sql.Json
/-!
# JSON の関数

JSON を読み書きする関数の値。関数は値と「JSON のテキストである」という印の組を受け取り、
同じ組を返す。印のあるテキストは配列や組の中にそのまま入り、ないテキストは文字列になる。

* 文書の引数が NULL なら結果は NULL。道の引数が NULL なら、その道は何も指さない。
* `json_extract` は道が一つなら見つけた値を SQL の値に、二つ以上なら見つけた値 (なければ
  null) の配列にする。`->` は見つけた値を JSON のテキストに、`->>` は SQL の値にする。
  `->` と `->>` の道は `$` で始まらなければ、数字で始まるものを `$[道]`、`[` で始まるものを
  `$道`、ほかを `$.道` と読む。
* `json_set` と `json_insert` は道の先が欠けていれば足し、`json_set` と `json_replace` は
  あるものを置き換える。根を置き換えれば結果はその値そのもの。`json_remove` で根を消せば
  NULL。
* `json_object` の名前はテキストに限り、引数は偶数個。`json_set` などの引数は奇数個。
-/
namespace HttpCaching.Sql

/-- JSON 関数がとって与える、JSON のテキストかどうかをつけた値。 -/
abbrev Tagged := Value × Bool

namespace JsonCall

/-- JSON 関数が値から読むバイト: 最初の NUL までのテキスト。NULL は持たない。 -/
def input (v : Value) : Option (List Nat) := v.asBytes?.map (·.takeWhile (· != 0))

/-- 文書でないテキストの失敗。 -/
def malformed : SqlError := .logic "malformed JSON"

/-- 値が持つ文書。NULL は持たない。 -/
def document (v : Value) : Except SqlError (Option Json) :=
  match input v with
  | none => .ok none
  | some bs =>
    match Json.parse bs with
    | some j => .ok (some j)
    | none => .error malformed

/-- 文の失敗としての、JSON を書くことの失敗。 -/
def lift {α : Type} (r : Except String α) : Except SqlError α := r.mapError SqlError.logic

/-- 値として与えた道を文書の中でたどり、終わる所で編集する。NULL の道は何もたどらない。 -/
def follow (doc : Json) (path : Value) (grow : Bool) (edit : Bool → Json → Json) :
    Except SqlError (Option (Json × Json)) :=
  match input path with
  | none => .ok none
  | some p =>
    match Json.lookup doc p grow edit with
    | .malformed near => .error (.logic (Json.pathMessage near))
    | .missing => .ok none
    | .found n d _ => .ok (some (n, d))

/-- 節点をそのままにする編集。 -/
def keep : Bool → Json → Json := fun _ j => j

/-- JSON の印をつけた、節点の JSON のテキスト。 -/
def jsonText (j : Json) : Except SqlError Tagged := do
  return (.text (Text.ofUtf8 (← lift (Json.render j))), true)

/-- NULL の結果。 -/
def nothing : Tagged := (.null, false)

/-- JSON の印をつけた、バイトの JSON のテキスト。 -/
def ofBytes (bs : List Nat) : Tagged := (.text (Text.ofUtf8 bs), true)

/-- `json_extract`: 道が見つける値、または道が複数なら、それぞれが見つけるものの配列。 -/
def extract (args : List Tagged) : Except SqlError Tagged := do
  match args with
  | (d, _) :: paths@(_ :: _) =>
    match ← document d with
    | none => return nothing
    | some doc =>
      match paths with
      | [(p, _)] =>
        match ← follow doc p false keep with
        | some (n, _) => lift (Json.toValue n)
        | none => return nothing
      | _ =>
        let parts ← paths.mapM fun (p, _) => do
          match ← follow doc p false keep with
          | some (n, _) => lift (Json.render n)
          | none => pure (Json.ascii "null")
        return ofBytes (91 :: Json.joinComma parts ++ [93])
  | _ => return nothing

/-- `->` と `->>` がたどる道: `$` で始まらない道は、数字で始まれば項目を名指し、`[`
で始まれば根から続け、それ以外は組を名指す。 -/
def arrowPath (p : List Nat) : List Nat :=
  match p with
  | 36 :: _ => p
  | c :: _ =>
    if Json.isDigit c then 36 :: 91 :: p ++ [93]
    else if c == 91 then 36 :: p
    else 36 :: 46 :: p
  | [] => [36, 46]

/-- `->` (JSON のテキストとして) と `->>` (SQL の値として)。 -/
def arrow (asJson : Bool) (d p : Value) : Except SqlError Tagged := do
  match ← document d with
  | none => return nothing
  | some doc =>
    match input p with
    | none => return nothing
    | some path =>
      match Json.lookup doc (arrowPath path) false keep with
      | .malformed near => throw (.logic (Json.pathMessage near))
      | .missing => return nothing
      | .found n _ _ =>
        if asJson then jsonText n
        else do
          let (v, _) ← lift (Json.toValue n)
          return (v, false)

/-- 引数の組。それぞれ道と値。 -/
def pairsOf : List Tagged → List (Tagged × Tagged)
  | p :: v :: rest => (p, v) :: pairsOf rest
  | _ => []

/-- `json_set`、`json_insert`、`json_replace`: それぞれの値をその道が終わる所に置く。
初めの二つはないものを足し、最初と最後はあるものを置き換える。 -/
def put (name : String) (grow replace : Bool) (args : List Tagged) : Except SqlError Tagged := do
  match args with
  | [] => return nothing
  | (d, _) :: rest =>
    if args.length % 2 == 0 then
      throw (.logic ("json_" ++ name ++ "() needs an odd number of arguments"))
    match ← document d with
    | none => return nothing
    | some doc =>
      let doc ← (pairsOf rest).foldlM (fun doc ((p, _), (v, json)) => do
        let edit : Bool → Json → Json := fun added old =>
          if added || replace then .put v json else old
        match ← follow doc p grow edit with
        | some (_, d) => pure d
        | none => pure doc) doc
      match doc with
      | .put v json => return (v, json)
      | _ => jsonText doc

/-- `json_remove` (と道のない `json`): 道が見つけるものを除いた文書。道が NULL か根を除くなら
NULL。 -/
def remove (args : List Tagged) : Except SqlError Tagged := do
  match args with
  | [] => return nothing
  | (d, _) :: paths =>
    match ← document d with
    | none => return nothing
    | some doc =>
      let step (acc : Option Json) (pv : Tagged) : Except SqlError (Option Json) := do
        match acc with
        | none => return none
        | some doc =>
          if pv.1.isNull then return none
          match ← follow doc pv.1 false fun _ j => Json.markRemoved j with
          | some (_, d) => return some d
          | none => return some doc
      match ← paths.foldlM step (some doc) with
      | none => return nothing
      | some (.removed _) => return nothing
      | some doc => jsonText doc

/-- `json_array`: 引数の配列。 -/
def array (args : List Tagged) : Except SqlError Tagged := do
  let parts ← args.mapM fun (v, json) => lift (Json.valueBytes v json)
  return ofBytes (91 :: Json.joinComma parts ++ [93])

/-- `json_object`: テキストでなければならない名前と値の組の組の集まり。 -/
def object (args : List Tagged) : Except SqlError Tagged := do
  if args.length % 2 == 1 then throw (.logic "json_object() requires an even number of arguments")
  let pairs := pairsOf args
  if pairs.any fun ((k, _), _) => !(k matches .text _) then
    throw (.logic "json_object() labels must be TEXT")
  let parts ← pairs.mapM fun ((k, _), (v, json)) => do
    let b ← lift (Json.valueBytes v json)
    return Json.quoteBytes ((k.asBytes?).getD []) ++ 58 :: b
  return ofBytes (123 :: Json.joinComma parts ++ [125])

/-- 文書の引数とあってもよい道が名指す節点。道が何も見つけなければなし。 -/
def target (args : List Tagged) : Except SqlError (Option Json) := do
  match args with
  | (d, _) :: more =>
    match ← document d with
    | none => return none
    | some doc =>
      match more with
      | (p, _) :: _ => return (← follow doc p false keep).map (·.1)
      | [] => return some doc
  | [] => return none

/-- 小文字の名前によるスカラーの JSON 関数の値。 -/
def scalar (key : String) (args : List Tagged) : Except SqlError Tagged := do
  match key with
  | "json" | "json_remove" => remove args
  | "json_array" => array args
  | "json_object" => object args
  | "json_extract" => extract args
  | "json_set" => put "set" true true args
  | "json_insert" => put "insert" true false args
  | "json_replace" => put "replace" false true args
  | "json_quote" =>
    let (v, json) := args.headD nothing
    return ofBytes (← lift (Json.valueBytes v json))
  | "json_array_length" =>
    match ← target args with
    | some (.array items) => return (.integer items.length, false)
    | some _ => return (.integer 0, false)
    | none => return nothing
  | "json_type" =>
    match ← target args with
    | some n => return (.text (Json.typeName n), false)
    | none => return nothing
  | "json_valid" =>
    let ok := ((input (args.headD nothing).1).bind Json.parse).isSome
    return (.integer (if ok then 1 else 0), false)
  | "json_patch" =>
    match args with
    | [(a, _), (b, _)] =>
      match ← document a with
      | none => return nothing
      | some x =>
        match ← document b with
        | none => return nothing
        | some y => jsonText (Json.mergePatch 2010 x y)
    | _ => return nothing
  | _ => return nothing

/-- 小文字の名前がスカラーの JSON 関数かどうか。 -/
def isScalar (key : String) : Bool :=
  ["json", "json_array", "json_array_length", "json_extract", "json_insert", "json_object",
    "json_patch", "json_quote", "json_remove", "json_replace", "json_set", "json_type",
    "json_valid"].contains key

/-- `json_group_array`: グループの値の配列。 -/
def groupArray (rows : List Tagged) : Except SqlError Value := do
  let parts ← rows.mapM fun (v, json) => lift (Json.valueBytes v json)
  return .text (Text.ofUtf8 (91 :: Json.joinComma parts ++ [93]))

/-- `json_group_object`: グループの名前と値の組の集まり。NULL の名前は何もないように書く。 -/
def groupObject (rows : List (Tagged × Tagged)) : Except SqlError Value := do
  let parts ← rows.mapM fun ((k, _), (v, json)) => do
    let b ← lift (Json.valueBytes v json)
    let name := match k.asBytes? with
      | some bs => Json.quoteBytes bs
      | none => []
    return name ++ 58 :: b
  return .text (Text.ofUtf8 (123 :: Json.joinComma parts ++ [125]))

end JsonCall

end HttpCaching.Sql
