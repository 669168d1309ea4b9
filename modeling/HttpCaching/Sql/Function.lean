import HttpCaching.Sql.Operator
import HttpCaching.Sql.DateTime
/-!
# 組み込みの関数

名前で呼ぶ関数の、受け取る引数の数と、値に対する働き。

* 関数は普通の関数、集約 (`count`・`sum`・`total`・`avg`・`min`・`max`・`group_concat` など)、
  窓関数に分かれる。`min` と `max` は引数が一つなら集約、二つ以上なら普通の関数。
* 知らない名前は `no such function`、数の合わない呼び出しは
  `wrong number of arguments to function 名前()`。
* テキストの関数は UTF-8 のバイト列の上で働き、文字は先頭バイトとそれに続く継続バイトで
  数える。大文字と小文字の変換は ASCII だけ。
* `abs` は最小の整数で `integer overflow`。`zeroblob` と `randomblob` は十億バイトを越えると
  `string or blob too big`。
-/
namespace HttpCaching.Sql

/-- 名前つきの関数の種類。 -/
inductive FunctionKind where
  | scalar
  | aggregate
  | window
  deriving DecidableEq, Repr, Inhabited

/-- 名前つきの関数: 種類と、とる引数の数 (与えた最小の数から先のどの数でもよければ `none`)。 -/
structure FunctionSpec where
  kind : FunctionKind
  counts : List Nat
  /-- そこから先のどの数でもとるときの、最小の数。 -/
  atLeast : Option Nat
  deriving Inhabited

/-- ある関数。小文字の名前で。 -/
def functionSpecs : List (String × FunctionSpec) :=
  let s (c : List Nat) : FunctionSpec := ⟨.scalar, c, none⟩
  let many (n : Nat) : FunctionSpec := ⟨.scalar, [], some n⟩
  let a (c : List Nat) : FunctionSpec := ⟨.aggregate, c, none⟩
  let w (c : List Nat) : FunctionSpec := ⟨.window, c, none⟩
  [("abs", s [1]), ("changes", s [0]), ("char", many 0), ("coalesce", many 2),
   ("format", many 0), ("glob", s [2]), ("hex", s [1]), ("ifnull", s [2]), ("iif", s [3]),
   ("instr", s [2]), ("last_insert_rowid", s [0]), ("length", s [1]), ("like", s [2, 3]),
   ("likelihood", s [2]), ("likely", s [1]), ("load_extension", s [1, 2]), ("lower", s [1]),
   ("ltrim", s [1, 2]), ("nullif", s [2]), ("printf", many 0), ("quote", s [1]),
   ("random", s [0]), ("randomblob", s [1]), ("replace", s [3]), ("round", s [1, 2]),
   ("rtrim", s [1, 2]), ("sign", s [1]), ("sqlite_compileoption_get", s [1]),
   ("sqlite_compileoption_used", s [1]), ("sqlite_offset", s [1]),
   ("sqlite_source_id", s [0]), ("sqlite_version", s [0]), ("substr", s [2, 3]),
   ("substring", s [2, 3]), ("total_changes", s [0]), ("trim", s [1, 2]), ("typeof", s [1]),
   ("unicode", s [1]), ("unlikely", s [1]), ("upper", s [1]), ("zeroblob", s [1]),
   ("date", many 0), ("time", many 0), ("datetime", many 0), ("julianday", many 0),
   ("unixepoch", many 0), ("strftime", many 1), ("current_date", s [0]),
   ("current_time", s [0]), ("current_timestamp", s [0]),
   ("json", s [1]), ("json_array", many 0), ("json_array_length", s [1, 2]),
   ("json_extract", many 0), ("json_insert", many 0), ("json_object", many 0),
   ("json_patch", s [2]), ("json_quote", s [1]), ("json_remove", many 0),
   ("json_replace", many 0), ("json_set", many 0), ("json_type", s [1, 2]),
   ("json_valid", s [1]),
   ("acos", s [1]), ("acosh", s [1]), ("asin", s [1]), ("asinh", s [1]), ("atan", s [1]),
   ("atan2", s [2]), ("atanh", s [1]), ("ceil", s [1]), ("ceiling", s [1]), ("cos", s [1]),
   ("cosh", s [1]), ("degrees", s [1]), ("exp", s [1]), ("floor", s [1]), ("ln", s [1]),
   ("log", s [1, 2]), ("log10", s [1]), ("log2", s [1]), ("mod", s [2]), ("pi", s [0]),
   ("pow", s [2]), ("power", s [2]), ("radians", s [1]), ("sin", s [1]), ("sinh", s [1]),
   ("sqrt", s [1]), ("tan", s [1]), ("tanh", s [1]), ("trunc", s [1]),
   ("avg", a [1]), ("count", a [0, 1]), ("group_concat", a [1, 2]), ("sum", a [1]),
   ("total", a [1]), ("json_group_array", a [1]), ("json_group_object", a [2]),
   ("row_number", w [0]), ("rank", w [0]), ("dense_rank", w [0]), ("percent_rank", w [0]),
   ("cume_dist", w [0]), ("ntile", w [1]), ("lag", w [1, 2, 3]), ("lead", w [1, 2, 3]),
   ("first_value", w [1]), ("last_value", w [1]), ("nth_value", w [2])]

/-- 名前をその数の引数で呼ぶことがどう扱われるか: 関数の種類として、または `none` と、
名前をそもそも知っているかどうか。 -/
def functionKind? (name : String) (count : Nat) : Except Bool FunctionKind :=
  let key := String.ofList (name.toList.map foldAscii)
  if (key == "min" || key == "max") then
    if count == 1 then .ok .aggregate else if count ≥ 2 then .ok .scalar else .error true
  else match functionSpecs.lookup key with
    | some spec =>
      if spec.counts.contains count || spec.atLeast.any (· ≤ count) then .ok spec.kind
      else .error true
    | none => .error false

/-- 値のテキストのバイト。 -/
def textBytes? (v : Value) : Option (List Nat) := v.asText?.map Text.bytesOf

/-- UTF-8 のバイトを文字に分ける: 0xC0 以上のバイトはその後の継続バイトをとる。 -/
def utf8Units : List Nat → List (List Nat)
  | [] => []
  | b :: rest =>
    if b ≥ 0xC0 then
      let cont := rest.takeWhile fun c => c / 64 == 2
      (b :: cont) :: utf8Units (rest.drop cont.length)
    else [b] :: utf8Units rest
termination_by bs => bs.length
decreasing_by
  · rw [List.length_drop, List.length_cons]
    omega
  · rw [List.length_cons]
    omega

/-- 最初の NUL までのバイト。 -/
def beforeNul (bs : List Nat) : List Nat := bs.takeWhile (· != 0)

/-- 値のテキストの、最初の NUL までの文字。 -/
def textUnits (v : Value) : List (List Nat) := utf8Units (beforeNul ((textBytes? v).getD []))

/-- バイトの大文字の十六進のテキスト。 -/
def hexText (bs : List Nat) : String :=
  let digit (n : Nat) : Char := "0123456789ABCDEF".toList.getD n '0'
  String.ofList (bs.flatMap fun b => [digit (b / 16), digit (b % 16)])

/-- 文の言語のリテラルとして書いた値。 -/
def quoteValue (v : Value) : String :=
  match v with
  | .null => "NULL"
  | .integer n => toString n
  | .real x =>
    let t := renderQuoted x
    t
  | .text s => "'" ++ String.join (s.toList.map fun c => if c == '\'' then "''" else c.toString) ++ "'"
  | .blob bs => "X'" ++ hexText bs ++ "'"
where
  /-- 十五桁の実数。`quote` が与える形。 -/
  renderQuoted (x : Float) : String := renderReal x

/-- 文字かバイトの上の `substr`: 一からの始まり (負なら終わりから) と、あってもよい長さ
(負なら始まりの前をとる)。 -/
def substrUnits {α : Type} (units : List α) (start : Int) (length : Option Int) : List α :=
  let len : Int := units.length
  let (p2, negP2) : Int × Bool := match length with
    | some l => if l < 0 then (-l, true) else (l, false)
    | none => (1000000000, false)
  let (p1, p2) : Int × Int :=
    if start < 0 then
      let p1 := start + len
      if p1 < 0 then (0, max 0 (p2 + p1)) else (p1, p2)
    else if start > 0 then (start - 1, p2)
    else if p2 > 0 then (0, p2 - 1) else (0, p2)
  let (p1, p2) : Int × Int :=
    if negP2 then
      let p1' := p1 - p2
      if p1' < 0 then (0, p2 + p1') else (p1', p2)
    else (p1, p2)
  (units.drop p1.toNat).take p2.toNat

/-- 関数が読む 32 ビットの引数: 整数を、下位 32 ビットに切ったもの。 -/
def int32Of (v : Value) : Int :=
  let w := Value.toWord v.toInt % Nat.pow 2 32
  if w ≥ Nat.pow 2 31 then (w : Int) - (Nat.pow 2 32 : Int) else w

/-- テキストの文字の両端から、集合の文字を切り詰める。 -/
def trimUnits (set : List (List Nat)) (left right : Bool) (units : List (List Nat)) :
    List (List Nat) :=
  let l := if left then units.dropWhile set.contains else units
  if right then (l.reverse.dropWhile set.contains).reverse else l

/-- バイトがバイトの中に初めて現れる位置 (一から)。どこにもなければ零。 -/
def findBytes (needle hay : List Nat) : Nat :=
  go hay 1 hay.length
where
  /-- 各位置から順に見る。 -/
  go : List Nat → Nat → Nat → Nat
    | [], _, _ => if needle.isEmpty then 1 else 0
    | h :: t, k, fuel =>
      if (h :: t).take needle.length == needle then k
      else match fuel with
        | 0 => 0
        | fuel + 1 => go t (k + 1) fuel

/-- バイトの中の空でない型のすべての出現を置き換える。 -/
def replaceBytes (pattern rep : List Nat) : Nat → List Nat → List Nat
  | 0, bs => bs
  | fuel + 1, bs =>
    match bs with
    | [] => []
    | b :: rest =>
      if bs.take pattern.length == pattern then
        rep ++ replaceBytes pattern rep fuel (bs.drop pattern.length)
      else b :: replaceBytes pattern rep fuel rest

/-- 最も大きいテキストか BLOB。バイトで。 -/
def lengthLimit : Nat := 1000000000

/-- 文がすることを変える接続の設定。 -/
structure Settings where
  /-- `LIKE` が大文字と小文字を区別するかどうか (`case_sensitive_like`)。 -/
  caseSensitiveLike : Bool
  /-- `CHECK` 制約を確かめないかどうか (`ignore_check_constraints`)。 -/
  ignoreChecks : Bool
  /-- トリガーが自分の中から再び起きてよいか、`REPLACE` が除く行が `DELETE`
  トリガーを起こすかどうか (`recursive_triggers`)。 -/
  recursiveTriggers : Bool
  /-- 順のない問い合わせがその源を逆に読むかどうか (`reverse_unordered_selects`)。 -/
  reverseUnordered : Bool
  /-- 表の列である結果の列に、前に表の名前をつけて名をつけるかどうか (`full_column_names`)。 -/
  fullColumnNames : Bool
  /-- そうした列に、テキストではなく列で名をつけるかどうか (`short_column_names`)。 -/
  shortColumnNames : Bool
  deriving Inhabited

/-- 新しい接続の設定。 -/
def Settings.initial : Settings := ⟨false, false, false, false, false, true⟩

/-- 尋ねる関数のために文が接続について知ること: 最後に挿入した行番号、最後の文とすべてで変えた行、
接続の設定。 -/
structure CallContext where
  lastInsertRowid : Int
  changes : Int
  totalChanges : Int
  settings : Settings
  deriving Inhabited

/-- UTF-8 の文字のバイトの符号位置。 -/
def unitCode (u : List Nat) : Nat :=
  match u with
  | [] => 0
  | b :: rest =>
    let (lead, n) :=
      if b < 0x80 then (b, 0) else if b < 0xE0 then (b % 32, 1)
      else if b < 0xF0 then (b % 16, 2) else (b % 8, 3)
    (rest.take n).foldl (fun acc c => acc * 64 + c % 64) lead

/-- 符号位置の UTF-8 のバイト。 -/
def codeBytes (c : Nat) : List Nat :=
  if c < 0x80 then [c]
  else if c < 0x800 then [0xC0 + c / 64, 0x80 + c % 64]
  else if c < 0x10000 then [0xE0 + c / 4096, 0x80 + (c / 64) % 64, 0x80 + c % 64]
  else [0xF0 + c / 262144, 0x80 + (c / 4096) % 64, 0x80 + (c / 64) % 64, 0x80 + c % 64]

/-- 一つの実数の数学関数。浮動小数点数の演算として与える。 -/
def mathOne (f : Float → Float) (v : Value) : Value :=
  match v with
  | .null => .null
  | .text _ | .blob _ =>
    match v.numeric with
    | some n => Value.realResult (f n.toReal)
    | none => .null
  | _ => Value.realResult (f v.toReal)

/-- スカラー関数を引数の値で呼ぶ。 -/
def callScalar (ctx : CallContext) (name : String) (args : List Value) : Except SqlError Value :=
  let key := String.ofList (name.toList.map foldAscii)
  let a0 := args.getD 0 .null
  let a1 := args.getD 1 .null
  let a2 := args.getD 2 .null
  match key with
  | "abs" =>
    match a0 with
    | .null => .ok .null
    | .integer n => if n == leastInt then .error (.logic "integer overflow") else .ok (.integer n.natAbs)
    | .real x => .ok (.real x.abs)
    | v => .ok (.real v.toReal.abs)
  | "changes" => .ok (.integer ctx.changes)
  | "total_changes" => .ok (.integer ctx.totalChanges)
  | "last_insert_rowid" => .ok (.integer ctx.lastInsertRowid)
  | "char" =>
    .ok (.text (Text.ofUtf8 (args.flatMap fun v =>
      let x := v.toInt
      let c := if x < 0 || x > 0x10ffff then 0xfffd else x.toNat
      codeBytes c)))
  | "coalesce" | "ifnull" => .ok ((args.find? (!·.isNull)).getD .null)
  | "iif" => .ok (if a0.truth? == some true then a1 else a2)
  | "nullif" => .ok (if Value.compare .binary a0 a1 == .eq then .null else a0)
  | "likely" | "unlikely" | "likelihood" => .ok a0
  | "typeof" => .ok (.text a0.typeName)
  | "length" =>
    match a0 with
    | .null => .ok .null
    | .blob bs => .ok (.integer bs.length)
    | v => .ok (.integer (textUnits v).length)
  | "lower" | "upper" =>
    match textBytes? a0 with
    | none => .ok .null
    | some bs =>
      .ok (.text (Text.ofUtf8 (bs.map (if key == "lower" then lowerByte else upperByte))))
  | "hex" =>
    match a0 with
    | .blob bs => .ok (.text (hexText bs))
    | v => .ok (.text (hexText ((textBytes? v).getD [])))
  | "quote" => .ok (.text (quoteValue a0))
  | "instr" =>
    if a0.isNull || a1.isNull then .ok .null
    else match a0, a1 with
      | .blob x, .blob y => .ok (.integer (findBytes y x))
      | _, _ =>
        let hay := textUnits a0
        let needle := textUnits a1
        let k := findUnits needle hay
        .ok (.integer k)
  | "substr" | "substring" =>
    if a1.isNull || (args.length == 3 && a2.isNull) || a0.isNull then .ok .null
    else
      let start := int32Of a1
      let length := if args.length == 3 then some (int32Of a2) else none
      match a0 with
      | .blob bs => .ok (.blob (substrUnits bs start length))
      | v => .ok (.text (Text.ofUtf8 (substrUnits (textUnits v) start length).flatten))
  | "replace" =>
    match textBytes? a0, textBytes? a1, textBytes? a2 with
    | some x, some y, some z =>
      if y.isEmpty then .ok a0
      else .ok (.text (Text.ofUtf8 (replaceBytes y z (x.length + 1) x)))
    | some _, some y, none => if y.isEmpty then .ok a0 else .ok .null
    | _, _, _ => .ok .null
  | "trim" | "ltrim" | "rtrim" =>
    if a0.isNull then .ok .null
    else
      let set := if args.length == 2 then textUnits a1 else [[32]]
      if args.length == 2 && a1.isNull then .ok .null
      else
        let units := textUnits a0
        .ok (.text (Text.ofUtf8
          (trimUnits set (key != "rtrim") (key != "ltrim") units).flatten))
  | "unicode" =>
    match textUnits a0 with
    | u :: _ => .ok (.integer (unitCode u))
    | [] => .ok .null
  | "zeroblob" =>
    let n := a0.toInt
    if n > lengthLimit then .error ⟨18, "string or blob too big"⟩
    else .ok (.blob (List.replicate n.toNat 0))
  | "randomblob" =>
    let n := a0.toInt
    if n > lengthLimit then .error ⟨18, "string or blob too big"⟩
    else .ok (.blob (List.replicate (max 1 n).toNat 0))
  | "random" => .ok (.integer 0)
  | "round" =>
    if a0.isNull || (args.length == 2 && a1.isNull) then .ok .null
    else
      let n := if args.length == 2 then max 0 (min 30 (int32Of a1)) else 0
      let r := a0.toReal
      if r < -4503599627370496.0 || r > 4503599627370496.0 then .ok (.real r)
      else if n == 0 then
        .ok (.real (Float.ofInt (truncateFloat (r + (if r < 0.0 then -0.5 else 0.5)))))
      else
        let scale := tenPower n.toNat
        let y := (r * scale + (if r < 0.0 then -0.5 else 0.5))
        .ok (.real (Float.ofInt (truncateFloat y) / scale))
  | "sign" =>
    match a0 with
    | .null => .ok .null
    | .integer n => .ok (.integer (if n > 0 then 1 else if n < 0 then -1 else 0))
    | .real x => .ok (.integer (if x > 0.0 then 1 else if x < 0.0 then -1 else 0))
    | v =>
      match (Value.ofNumberText? v.charsOf false) with
      | some n =>
        let x := n.toReal
        .ok (.integer (if x > 0.0 then 1 else if x < 0.0 then -1 else 0))
      | none => .ok .null
  | "like" | "glob" =>
    if a0.isNull || a1.isNull || (args.length == 3 && a2.isNull) then .ok .null
    else
      let pattern := ((a0.asText?).getD "").toList
      let subject := ((a1.asText?).getD "").toList
      if key == "glob" then
        .ok (Value.ofBool (globMatch (pattern.length + subject.length + 2) pattern subject))
      else
        let escape := if args.length == 3 then (a2.asText?).getD "" else ""
        if args.length == 3 && escape.length != 1 then
          .error (.logic "ESCAPE expression must be a single character")
        else
          .ok (Value.ofBool (likeMatch ctx.settings.caseSensitiveLike escape.toList.head?
            (pattern.length + subject.length + 2) pattern subject))
  | "sqlite_version" => .ok (.text "3.39.4")
  | "sqlite_source_id" =>
    .ok (.text "2022-09-29 15:55:41 a29f9949895322123f7c38fbe94c649a9d6e6c9cd0c3b41c96d694552f26b309")
  | "sqlite_compileoption_used" => .ok (.integer 0)
  | "sqlite_compileoption_get" => .ok .null
  | "sqlite_offset" => .ok .null
  | "load_extension" => .error (.logic "not authorized")
  | "ceil" | "ceiling" => .ok (roundTo Float.ceil a0)
  | "floor" => .ok (roundTo Float.floor a0)
  | "trunc" => .ok (roundTo (fun x => if x < 0.0 then Float.ceil x else Float.floor x) a0)
  | "sqrt" => .ok (mathOne Float.sqrt a0)
  | "exp" => .ok (mathOne Float.exp a0)
  | "ln" => .ok (mathOne Float.log a0)
  | "log10" => .ok (mathOne Float.log10 a0)
  | "log2" => .ok (mathOne Float.log2 a0)
  | "sin" => .ok (mathOne Float.sin a0)
  | "cos" => .ok (mathOne Float.cos a0)
  | "tan" => .ok (mathOne Float.tan a0)
  | "asin" => .ok (mathOne Float.asin a0)
  | "acos" => .ok (mathOne Float.acos a0)
  | "atan" => .ok (mathOne Float.atan a0)
  | "sinh" => .ok (mathOne Float.sinh a0)
  | "cosh" => .ok (mathOne Float.cosh a0)
  | "tanh" => .ok (mathOne Float.tanh a0)
  | "asinh" => .ok (mathOne Float.asinh a0)
  | "acosh" => .ok (mathOne Float.acosh a0)
  | "atanh" => .ok (mathOne Float.atanh a0)
  | "degrees" => .ok (mathOne (fun x => x * 180.0 / 3.141592653589793) a0)
  | "radians" => .ok (mathOne (fun x => x * 3.141592653589793 / 180.0) a0)
  | "pi" => .ok (.real 3.141592653589793)
  | "log" =>
    if args.length == 1 then .ok (mathOne Float.log10 a0)
    else if a0.isNull || a1.isNull then .ok .null
    else .ok (Value.realResult (Float.log a1.toReal / Float.log a0.toReal))
  | "pow" | "power" =>
    if a0.isNull || a1.isNull then .ok .null
    else .ok (Value.realResult (Float.pow a0.toReal a1.toReal))
  | "atan2" =>
    if a0.isNull || a1.isNull then .ok .null
    else .ok (Value.realResult (Float.atan2 a0.toReal a1.toReal))
  | "mod" =>
    if a0.isNull || a1.isNull then .ok .null
    else
      let y := a1.toReal
      if y == 0.0 then .ok .null
      else
        let x := a0.toReal
        .ok (Value.realResult (x - y * (if x / y < 0.0 then Float.ceil (x / y) else Float.floor (x / y))))
  | "printf" | "format" => .ok (printfValue args)
  | "date" | "time" | "datetime" | "julianday" | "unixepoch" | "strftime" => .ok (dateValue key args)
  | _ => .ok .null
where
  /-- 針に等しい単位の最初の続きの位置 (一から)。なければ零。 -/
  findUnits (needle hay : List (List Nat)) : Nat :=
    let n := needle.length
    match (List.range (hay.length + 1)).find? fun k =>
        k + n ≤ hay.length && (hay.drop k).take n == needle with
    | some k => k + 1
    | none => 0
  /-- 数に当てた丸めの関数: 整数は保ち、テキストは数として読む。 -/
  roundTo (f : Float → Float) (v : Value) : Value :=
    match v with
    | .null => .null
    | .integer _ => v
    | .real x => .real (f x)
    | _ =>
      match v.numeric with
      | some (.integer n) => .integer n
      | some w => .real (f w.toReal)
      | none => .null

end HttpCaching.Sql
