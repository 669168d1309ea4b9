import HttpCaching.Sql.Error
/-!
# JSON の文書

JSON の関数が読む文書と、道 (`$.a[0]` のような) による参照と書き換え。

* 文書は値のテキストのバイト列を最初の NUL まで読む。空白は空白・タブ・改行・復帰だけ。
  数は書いたままの綴りを持ち、先頭に余分な 0 のある数や、小数点・指数の前後に数字の
  欠けた数は読まない。文字列は制御文字を含まず、逃がしは `\" \\ \/ \b \f \n \r \t \uXXXX`
  だけ。入れ子は 2000 段まで。読めなければ `malformed JSON`。
* 書き出しは空白を入れず、数と読んだ文字列は書いたまま。値から作る文字列は `"` と `\` と
  制御文字を逃がす。BLOB は書けず `JSON cannot hold BLOB values`。
* 道は `$` で始まり、`.名前`・`."名前"`・`[数]`・`[#]`・`[#-数]` の並び。形の誤りは
  `JSON path error near '残り'`。名前は書いたままの綴りと比べ、同じ名前が二つあれば先の方。
  型の合わない段に来たところで、残りの道は読まずに「ない」になる。
* 書き換えは置いた値と消した印を文書に残す。置いた値の中へは進まない。消した要素は
  配列の番号に数えないが、消した組の名前はまだ当たる。
* 継ぎ当て (`json_patch`) は組ごとに、null なら消し、両方が組の集まりなら中で継ぎ当て、
  ほかは置き換え、ない名前は末尾に足す。足す値と置く値からは null の組を除く。
-/
namespace HttpCaching.Sql

/-- 文書の中のテキスト: 読んだとおりの引用符の間のバイトと、逃がしを持つかどうか。
または道が名指したバイトで、逃がして書くもの。 -/
inductive JsonText where
  | written (body : List Nat) (escaped : Bool)
  | named (bytes : List Nat)
  deriving Inhabited

/-- 文書。編集が残す印をつける。 -/
inductive Json where
  | null
  | bool (b : Bool)
  /-- 端数も指数もない数。書いたとおり。 -/
  | integer (digits : List Nat)
  /-- 端数か指数のある数。書いたとおり。 -/
  | real (digits : List Nat)
  | string (t : JsonText)
  | array (items : List Json)
  | object (members : List (JsonText × Json))
  /-- 編集が置いた値。`json` が成り立てば、そのテキストがそれ自体 JSON。 -/
  | put (v : Value) (json : Bool)
  /-- 除去が印をつけた項目か組。 -/
  | removed (j : Json)
  deriving Inhabited

namespace Json

/-- ASCII のテキストのバイト。 -/
def ascii (s : String) : List Nat := s.toList.map Char.toNat

/-- バイトが JSON の空白かどうか: 空白、タブ、改行、復帰。 -/
def isSpace (b : Nat) : Bool := b == 32 || b == 9 || b == 10 || b == 13

/-- バイトが十進の数字かどうか。 -/
def isDigit (b : Nat) : Bool := 48 ≤ b && b ≤ 57

/-- 十六進の数字の値。 -/
def hexValue (b : Nat) : Nat :=
  if 48 ≤ b && b ≤ 57 then b - 48
  else if 97 ≤ b && b ≤ 102 then b - 87
  else if 65 ≤ b && b ≤ 70 then b - 55
  else 0

/-- バイトが十六進の数字かどうか。 -/
def isHex (b : Nat) : Bool := isDigit b || (97 ≤ b && b ≤ 102) || (65 ≤ b && b ≤ 70)

/-- バイトが ASCII の英字か数字かどうか。 -/
def isAlnum (b : Nat) : Bool := isDigit b || (65 ≤ b && b ≤ 90) || (97 ≤ b && b ≤ 122)

/-- バイトが四つの十六進の数字で始まるかどうか。 -/
def fourHex : List Nat → Bool
  | a :: b :: c :: d :: _ => isHex a && isHex b && isHex c && isHex d
  | _ => false

/-- 文字列の中でバイトがバックスラッシュの後に来てよいかどうか。 -/
def isEscapeLetter (b : Nat) : Bool :=
  b == 34 || b == 92 || b == 47 || b == 98 || b == 102 || b == 110 || b == 114 || b == 116

/-- 開く引用符の後の文字列の本体を読む: 本体、逃がしを持つかどうか、閉じる引用符の後のバイト。
制御文字、悪い逃がし、終わりではなし。 -/
def readString : List Nat → List Nat → Bool → Option (List Nat × Bool × List Nat)
  | [], _, _ => none
  | [c], acc, esc => if c == 34 then some (acc.reverse, esc, []) else none
  | c :: d :: more, acc, esc =>
    if c < 32 then none
    else if c == 34 then some (acc.reverse, esc, d :: more)
    else if c == 92 then
      if isEscapeLetter d || (d == 117 && fourHex more) then readString more (d :: c :: acc) true
      else none
    else readString (d :: more) (c :: acc) esc

/-- 最初のバイトの後の数の残りを、前のバイトを与えて読む: そのバイト、端数か指数を持つかどうか、
その後のバイト。符号の後か二つ目の小数点、符号か小数点の後か二つ目の指数、数字のない指数、
符号か小数点で終わる数は読まない。 -/
def readNumberRest : List Nat → Nat → Bool → Bool → List Nat → Option (List Nat × Bool × List Nat)
  | [], prev, dp, _, acc => if prev < 48 then none else some (acc.reverse, dp, [])
  | c :: rest, prev, dp, e, acc =>
    if isDigit c then readNumberRest rest c dp e (c :: acc)
    else if c == 46 then
      if prev == 45 || dp then none else readNumberRest rest c true e (c :: acc)
    else if c == 101 || c == 69 then
      if prev < 48 || e then none
      else
        match rest with
        | s :: d :: more =>
          if s == 43 || s == 45 then
            if isDigit d then readNumberRest more d true true (d :: s :: c :: acc) else none
          else if isDigit s then readNumberRest (d :: more) s true true (s :: c :: acc)
          else none
        | [s] => if isDigit s then readNumberRest [] s true true (s :: c :: acc) else none
        | [] => none
    else if prev < 48 then none
    else some (acc.reverse, dp, c :: rest)

/-- 符号か数字で始まる数を読む。後に数字が続く零は拒む。 -/
def readNumberAt (c : Nat) (rest : List Nat) : Option (List Nat × Bool × List Nat) :=
  let body := if c == 45 then rest else c :: rest
  match body with
  | 48 :: d :: _ => if isDigit d then none else readNumberRest rest c false false [c]
  | _ => readNumberRest rest c false false [c]

/-- 値を一つ読んで得るもの: 値とその後のバイト、値が始まりうる所の閉じ括弧、テキストの終わり、
または失敗。 -/
inductive Read where
  | value (j : Json) (rest : List Nat)
  | closeObject (rest : List Nat)
  | closeArray (rest : List Nat)
  | finish
  | fail

/-- 文書が持てる最も深い入れ子。 -/
def maxDepth : Nat := 2000

/-- キーワードがバイトの先頭にあり、その後に英字も数字も続かないかどうか。 -/
def startsWord (word rest : List Nat) : Bool :=
  rest.take word.length == word && !((rest.drop word.length).head?.any isAlnum)

mutual

/-- 入れ子の深さで、空白の後の値を一つ読む。 -/
def readValue : Nat → Nat → List Nat → Read
  | 0, _, _ => .fail
  | fuel + 1, depth, bs =>
    match bs.dropWhile isSpace with
    | [] => .finish
    | c :: rest =>
      if c == 123 then readMembers fuel depth rest [] true
      else if c == 91 then readItems fuel depth rest [] true
      else if c == 34 then
        match readString rest [] false with
        | some (body, esc, after) => .value (.string (.written body esc)) after
        | none => .fail
      else if c == 110 && startsWord (ascii "ull") rest then .value .null (rest.drop 3)
      else if c == 116 && startsWord (ascii "rue") rest then .value (.bool true) (rest.drop 3)
      else if c == 102 && startsWord (ascii "alse") rest then .value (.bool false) (rest.drop 4)
      else if c == 45 || isDigit c then
        match readNumberAt c rest with
        | some (digits, true, after) => .value (.real digits) after
        | some (digits, false, after) => .value (.integer digits) after
        | none => .fail
      else if c == 125 then .closeObject rest
      else if c == 93 then .closeArray rest
      else .fail

/-- 開き波括弧かコンマの後の、組の集まりの組を読む。 -/
def readMembers : Nat → Nat → List Nat → List (JsonText × Json) → Bool → Read
  | 0, _, _, _, _ => .fail
  | fuel + 1, depth, bs, acc, first =>
    if depth + 1 > maxDepth then .fail
    else
      match readValue fuel (depth + 1) bs with
      | .closeObject rest => if first then .value (.object []) rest else .fail
      | .value (.string label) rest =>
        match rest.dropWhile isSpace with
        | 58 :: more =>
          match readValue fuel (depth + 1) more with
          | .value v after =>
            match after.dropWhile isSpace with
            | 44 :: more => readMembers fuel depth more ((label, v) :: acc) false
            | 125 :: more => .value (.object ((label, v) :: acc).reverse) more
            | _ => .fail
          | _ => .fail
        | _ => .fail
      | _ => .fail

/-- 開き括弧かコンマの後の、配列の項目を読む。 -/
def readItems : Nat → Nat → List Nat → List Json → Bool → Read
  | 0, _, _, _, _ => .fail
  | fuel + 1, depth, bs, acc, first =>
    if depth + 1 > maxDepth then .fail
    else
      match readValue fuel (depth + 1) bs with
      | .closeArray rest => if first then .value (.array []) rest else .fail
      | .value v rest =>
        match rest.dropWhile isSpace with
        | 44 :: more => readItems fuel depth more (v :: acc) false
        | 93 :: more => .value (.array (v :: acc).reverse) more
        | _ => .fail
      | _ => .fail

end

/-- テキスト全体が一つの値であるとき、テキストが持つ文書。 -/
def parse (bs : List Nat) : Option Json :=
  match readValue (3 * bs.length + 10) 0 bs with
  | .value j rest => if (rest.dropWhile isSpace).isEmpty then some j else none
  | _ => none

/-- JSON の文字列の中でバイトが表すバイト。 -/
def escapeByte (c : Nat) : List Nat :=
  if c == 34 || c == 92 then [92, c]
  else if c == 8 then [92, 98]
  else if c == 9 then [92, 116]
  else if c == 10 then [92, 110]
  else if c == 12 then [92, 102]
  else if c == 13 then [92, 114]
  else if c < 32 then
    let d := c % 16
    [92, 117, 48, 48, 48 + c / 16, if d < 10 then 48 + d else 87 + d]
  else [c]

/-- JSON の文字列として書いたバイト。 -/
def quoteBytes (bs : List Nat) : List Nat := 34 :: bs.flatMap escapeByte ++ [34]

/-- JSON が持てない値の文。 -/
def blobMessage : String := "JSON cannot hold BLOB values"

/-- 値の JSON のテキスト: NULL は null、数はそのテキスト、テキストは、それ自体 JSON
でなければ文字列。 -/
def valueBytes (v : Value) (json : Bool) : Except String (List Nat) :=
  match v with
  | .null => .ok (ascii "null")
  | .integer n => .ok (ascii (toString n))
  | .real x => .ok (Text.bytesOf (renderReal x))
  | .text s => .ok (if json then Text.bytesOf s else quoteBytes (Text.bytesOf s))
  | .blob _ => .error blobMessage

/-- 組の名前のバイト。 -/
def labelBytes : JsonText → List Nat
  | .written body _ => 34 :: body ++ [34]
  | .named bs => quoteBytes bs

/-- 切れをコンマでつなぐ。 -/
def joinComma (parts : List (List Nat)) : List Nat := (parts.intersperse [44]).flatten

mutual

/-- 文書のテキスト。空白も除いたものもない。 -/
def render : Json → Except String (List Nat)
  | .null => .ok (ascii "null")
  | .bool true => .ok (ascii "true")
  | .bool false => .ok (ascii "false")
  | .integer d => .ok d
  | .real d => .ok d
  | .string t => .ok (labelBytes t)
  | .array items => do
    let parts ← renderItems items
    return 91 :: joinComma parts ++ [93]
  | .object members => do
    let parts ← renderMembers members
    return 123 :: joinComma parts ++ [125]
  | .put v json => valueBytes v json
  | .removed j => render j

/-- 除いていない項目のテキスト。 -/
def renderItems : List Json → Except String (List (List Nat))
  | [] => .ok []
  | .removed _ :: rest => renderItems rest
  | j :: rest => do
    let b ← render j
    let bs ← renderItems rest
    return b :: bs

/-- 除いていない組のテキスト。それぞれ名前、コロン、値。 -/
def renderMembers : List (JsonText × Json) → Except String (List (List Nat))
  | [] => .ok []
  | (_, .removed _) :: rest => renderMembers rest
  | (k, v) :: rest => do
    let b ← render v
    let bs ← renderMembers rest
    return (labelBytes k ++ 58 :: b) :: bs

end

/-- U+10000 より下の符号位置の UTF-8 のバイト。 -/
def codeUnits (v : Nat) : List Nat :=
  if v ≤ 0x7f then [v]
  else if v ≤ 0x7ff then [0xc0 + v / 64, 0x80 + v % 64]
  else [0xe0 + v / 4096, 0x80 + v / 64 % 64, 0x80 + v % 64]

/-- 四つの十六進の数字の値。 -/
def hex4 (a b c d : Nat) : Nat :=
  hexValue a * 4096 + hexValue b * 256 + hexValue c * 16 + hexValue d

/-- 文字列の本体が表すテキスト: 逃がしは解き、サロゲートの対は一つの文字につなぎ、
一つだけのサロゲートは三バイトとして残し、逃がした NUL から先はすべて落とす。 -/
def unescape : List Nat → List Nat
  | 92 :: 117 :: a :: b :: c :: d :: rest =>
    let v := hex4 a b c d
    if v == 0 then []
    else if v ≤ 0x7ff then codeUnits v ++ unescape rest
    else
      match _hr : rest with
      | 92 :: 117 :: e :: f :: g :: h :: more =>
        let lo := hex4 e f g h
        if v / 1024 == 54 && lo / 1024 == 55 then
          let w := (v % 1024) * 1024 + lo % 1024 + 0x10000
          [0xf0 + w / 262144, 0x80 + w / 4096 % 64, 0x80 + w / 64 % 64, 0x80 + w % 64] ++
            unescape more
        else codeUnits v ++ unescape rest
      | _ => codeUnits v ++ unescape rest
  | 92 :: c :: rest =>
    let b := if c == 98 then 8 else if c == 102 then 12 else if c == 110 then 10
      else if c == 114 then 13 else if c == 116 then 9 else c
    b :: unescape rest
  | c :: rest => c :: unescape rest
  | [] => []

/-- 書いたとおりの整数の値: 収まれば 64 ビットの整数、その正確なテキストなら最小の整数、
それ以外はなしで、実数として読む。 -/
def wholeOf (neg : Bool) : List Nat → Nat → Option Int
  | [], acc => some (if neg then -(acc : Int) else acc)
  | d :: rest, acc =>
    let v := d - 48
    if acc ≥ 922337203685477580 then
      if acc > 922337203685477580 || !rest.isEmpty || v == 9 then none
      else if v == 8 then (if neg then some leastInt else none)
      else wholeOf neg rest (acc * 10 + v)
    else wholeOf neg rest (acc * 10 + v)

/-- 数のテキストが読む実数。 -/
def realOf (digits : List Nat) : Value := .real (readNumber (digits.map Char.ofNat)).value

/-- 節点の SQL の値と、それが JSON のテキストかどうか: null は NULL、true と false は 1 と 0、
数は数、文字列は解いたもの、配列と組の集まりはその JSON のテキスト。 -/
def toValue : Json → Except String (Value × Bool)
  | .null => .ok (.null, false)
  | .bool b => .ok (.integer (if b then 1 else 0), false)
  | .integer d =>
    let neg := d.head? == some 45
    match wholeOf neg (if neg then d.drop 1 else d) 0 with
    | some n => .ok (.integer n, false)
    | none => .ok (realOf d, false)
  | .real d => .ok (realOf d, false)
  | .string (.written body false) => .ok (.text (Text.ofUtf8 body), false)
  | .string (.written body true) => .ok (.text (Text.ofUtf8 (unescape body)), false)
  | .string (.named bs) => .ok (.text (Text.ofUtf8 bs), false)
  | .put v json => .ok (v, json)
  | .removed inner => toValue inner
  | j => do return (.text (Text.ofUtf8 (← render j)), true)

/-- 値としての、節点の JSON のテキスト。 -/
def toJsonValue (j : Json) : Except String (Value × Bool) := do
  return (.text (Text.ofUtf8 (← render j)), true)

/-- 節点の型の名前。 -/
def typeName : Json → String
  | .null => "null"
  | .bool true => "true"
  | .bool false => "false"
  | .integer _ => "integer"
  | .real _ => "real"
  | .string _ => "text"
  | .array _ => "array"
  | .object _ => "object"
  | .put _ _ => "null"
  | .removed j => typeName j

/-- 節点に除いた印があるかどうか。 -/
def isRemoved : Json → Bool
  | .removed _ => true
  | _ => false

/-- 節点に除いた印を一度だけつける。 -/
def markRemoved (j : Json) : Json := if isRemoved j then j else .removed j

/-- 組の名前が与えた名前かどうか。書いたとおりに比べる。 -/
def isKeyOf (t : JsonText) (key : List Nat) : Bool :=
  match t with
  | .written body _ => body == key
  | .named bs => bs == key

/-- 除いていない `i` 番目の項目のリストの中の位置。 -/
def liveIndex : List Json → Nat → Nat → Option Nat
  | [], _, _ => none
  | j :: rest, i, place =>
    if isRemoved j then liveIndex rest i (place + 1)
    else if i == 0 then some place
    else liveIndex rest (i - 1) (place + 1)

/-- 一歩 `.name` か `."name"` が名指す名前と、その後の道。名前が空か引用符が閉じていなければ、
名前からの道。 -/
def keyStep (p : List Nat) : Except (List Nat) (List Nat × List Nat) :=
  match p with
  | 34 :: rest =>
    let key := rest.takeWhile (· != 34)
    match rest.drop key.length with
    | 34 :: after => if key.isEmpty then .error p else .ok (key, after)
    | _ => .error p
  | _ =>
    let key := p.takeWhile fun b => b != 46 && b != 91
    if key.isEmpty then .error p else .ok (key, p.drop key.length)

/-- 十進の数字の数。32 ビットに保つ。 -/
def digitsValue (ds : List Nat) : Nat := ds.foldl (fun acc d => (acc * 10 + (d - 48)) % 4294967296) 0

end Json

/-- 文書の中で道をたどって見つかるもの。 -/
inductive Reach where
  /-- 誤った形の道。誤りが始まる所からのテキストで。 -/
  | malformed (near : List Nat)
  | missing
  /-- 道が名指す節点、そこで編集をした文書、道を完成させるために節点を足したかどうか。 -/
  | found (node : Json) (doc : Json) (added : Bool)
  deriving Inhabited

namespace Json

/-- 名前で見つけた組の集まりの組への一歩。 -/
def intoMember (members : List (JsonText × Json)) (k : Nat) (r : Reach) : Reach :=
  match r with
  | .found n v a =>
    .found n (.object (members.set k ((members.getD k (default, .null)).1, v))) a
  | r => r

/-- 配列の項目への一歩。 -/
def intoItem (items : List Json) (k : Nat) (r : Reach) : Reach :=
  match r with
  | .found n v a => .found n (.array (items.set k v)) a
  | r => r

mutual

/-- 節点から、`$` の後の道をたどり、終わる所で (節点を足したかどうかを伝えて) 編集をする。
`grow` が成り立てば、ない組か配列のちょうど末尾の次の項目を、道の残りが要る組の集まりと配
列とともに足す。 -/
def reach : Nat → Bool → (Bool → Json → Json) → Json → List Nat → Reach
  | 0, _, _, _, _ => .missing
  | fuel + 1, grow, edit, doc, path =>
    match path with
    | [] => .found doc (edit false doc) false
    | c :: rest =>
      match doc with
      | .put _ _ => .missing
      | .removed inner =>
        match reach fuel grow edit inner path with
        | .found n d a => .found n (.removed d) a
        | r => r
      | _ =>
        if c == 46 then
          match doc with
          | .object members =>
            match keyStep rest with
            | .error near => .malformed near
            | .ok (key, after) =>
              match members.findIdx? (fun m => isKeyOf m.1 key) with
              | some k => intoMember members k (reach fuel grow edit (members.getD k (default, .null)).2 after)
              | none =>
                if grow then
                  match growFrom fuel edit after with
                  | .found n v _ => .found n (.object (members ++ [(.named key, v)])) true
                  | r => r
                else .missing
          | _ => .missing
        else if c == 91 then
          let ds := rest.takeWhile isDigit
          let afterDigits := rest.drop ds.length
          let target : Except (List Nat) (Option (Nat × List Nat)) :=
            if !ds.isEmpty && afterDigits.head? == some 93 then .ok (some (digitsValue ds, afterDigits.drop 1))
            else if rest.head? == some 35 then
              match doc with
              | .array items =>
                let count := (items.filter (!isRemoved ·)).length
                match rest.drop 1 with
                | 45 :: d :: more =>
                  if isDigit d then
                    let xs := (d :: more).takeWhile isDigit
                    let x := digitsValue xs
                    match (d :: more).drop xs.length with
                    | 93 :: after => if x > count then .ok none else .ok (some (count - x, after))
                    | _ => if x > count then .ok none else .error path
                  else .error path
                | 93 :: after => .ok (some (count, after))
                | _ => .error path
              | _ => .ok none
            else .error path
          match target with
          | .error near => .malformed near
          | .ok none => .missing
          | .ok (some (i, after)) =>
            match doc with
            | .array items =>
              match liveIndex items i 0 with
              | some k => intoItem items k (reach fuel grow edit (items.getD k .null) after)
              | none =>
                if grow && i == (items.filter (!isRemoved ·)).length then
                  match growFrom fuel edit after with
                  | .found n v _ => .found n (.array (items ++ [v])) true
                  | r => r
                else .missing
            | _ => .missing
        else .malformed path

/-- 足した節点の下に道が要るものを作る: 終わりでは何もなし、名前の一歩には組の集まり、一歩
`[0]` には配列。ほかの一歩は何も足さない。 -/
def growFrom : Nat → (Bool → Json → Json) → List Nat → Reach
  | 0, _, _ => .missing
  | fuel + 1, edit, path =>
    match path with
    | [] => .found .null (edit true .null) true
    | 46 :: _ => reach fuel true edit (.object []) path
    | 91 :: 48 :: 93 :: _ => reach fuel true edit (.array []) path
    | _ => .missing

end

/-- `$` で始まる道全体をたどる。 -/
def lookup (doc : Json) (path : List Nat) (grow : Bool) (edit : Bool → Json → Json) : Reach :=
  match path with
  | 36 :: rest => reach (3 * rest.length + 6) grow edit doc rest
  | _ => .malformed path

/-- 誤った形の道の文。 -/
def pathMessage (near : List Nat) : String :=
  "JSON path error near '" ++ Text.ofUtf8 (near.flatMap fun b => if b == 39 then [39, 39] else [b]) ++
    "'"

/-- 組の集まりの null の組と、その組の中の組の集まりの null の組に、
除いた印をつける。 -/
def dropNulls : Nat → Json → Json
  | 0, j => j
  | fuel + 1, j =>
    match j with
    | .object members =>
      .object (members.map fun (k, v) =>
        match v with
        | .null => (k, markRemoved v)
        | .object _ => (k, dropNulls fuel v)
        | _ => (k, v))
    | _ => j

/-- 継ぎ当ての目標の組がどうなっているか: そのまま、または中で継ぎ当てた、除いた、
継ぎ当ての値を与えた。 -/
inductive Patched where
  | kept (v : Json)
  | removed
  | replaced (v : Json)

/-- 目標に継ぎ当てを当てた値: 組の集まりでない継ぎ当ては目標を置き換える。
組の集まりでない目標の上の組の集まりの継ぎ当ては、null を除いてそれを置き換える。
組の集まりの上では、継ぎ当ての組が順に、その名前の目標の最初の組を除く (null)、
中で継ぎ当てる、または置き換える。ただし継ぎ当ての前の組がそれを除いたか置き換えたときは除く。
目標になかった名前は末尾に足す。 -/
def mergePatch : Nat → Json → Json → Json
  | 0, target, _ => target
  | fuel + 1, target, patch =>
    match patch with
    | .object pms =>
      match target with
      | .object tms =>
        let start : List (JsonText × Patched) := tms.map fun (k, v) => (k, .kept v)
        let (slots, added) := pms.foldl (fun (acc : List (JsonText × Patched) × List (JsonText × Json)) (pk, pv) =>
          let (slots, added) := acc
          let key := labelBytes pk
          match slots.findIdx? (fun s => labelBytes s.1 == key) with
          | some k =>
            match slots.getD k (default, .removed) with
            | (tk, .kept tv) =>
              match pv with
              | .null => (slots.set k (tk, .removed), added)
              | _ =>
                match tv, pv with
                | .object _, .object _ => (slots.set k (tk, .kept (mergePatch fuel tv pv)), added)
                | _, _ => (slots.set k (tk, .replaced (mergePatch fuel tv pv)), added)
            | _ => (slots, added)
          | none =>
            match pv with
            | .null => (slots, added)
            | _ => (slots, added ++ [(pk, dropNulls fuel pv)])) (start, [])
        let kept := slots.filterMap fun (k, s) =>
          match s with
          | .kept v => some (k, v)
          | .replaced v => some (k, v)
          | .removed => none
        .object (kept ++ added)
      | _ => dropNulls fuel patch
    | _ => patch

end Json

end HttpCaching.Sql
