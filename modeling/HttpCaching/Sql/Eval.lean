import HttpCaching.Sql.Scope
import HttpCaching.Sql.JsonFunction
/-!
# 式と問い合わせの値

式を値に、問い合わせを行の並びにする。入れ子の問い合わせとビューを通る再帰は燃料で
止める。

* `AND` と `OR` は左が結果を決めれば右を見ない。`coalesce`・`ifnull`・`iif`・`CASE` も
  要る引数だけを見る。
* 比べる演算は `Scope` の決まりで親和性と照合を選ぶ。`IN` の並びは、見つかれば真、
  見つからず NULL があれば NULL、空なら偽。
* 単純な問い合わせは、`FROM` の源を左から結合し、`WHERE` で選び、集約するなら
  `GROUP BY` の値ごとに (その値の順に) まとめる。集約でない列の値は、グループの最後の行、
  ただし `min` か `max` が一つだけならそれが選んだ行から取る。`DISTINCT`、`ORDER BY`
  (安定な整列、NULL は昇順で先)、`OFFSET`・`LIMIT` の順に当てる。
* `reverse_unordered_selects` の下では、`ORDER BY` も `GROUP BY` もない問い合わせは表を
  後ろから読む。
* `UNION`・`INTERSECT`・`EXCEPT` の結果は重なりを除いて列の値の順に並び、`UNION ALL` は
  つないだ順。
* 要る行の数が決まっていれば (一行だけ進める文、`EXISTS`、値の問い合わせ)、整列も集約も
  ない問い合わせはそれだけの行を作った所で止まる。
-/
namespace HttpCaching.Sql

/-- 届く範囲の共通表が、それへの参照にどう答えるか。 -/
inductive CommonState where
  /-- その問い合わせを走らせて。 -/
  | ready
  /-- 失敗で。文は名前の前に置く: その問い合わせ自身を解決している途中。 -/
  | blocked (message : String)
  /-- 前もって決めた行で: 再帰的な問い合わせの一歩が扱う行。 -/
  | fixed (columns : Array SourceColumn) (rows : List (Array Value))
  deriving Inhabited

/-- 届く範囲の共通表: 名前、列の名前、問い合わせ、それへの参照への答え方。 -/
structure CommonDef where
  name : String
  columns : List String
  query : Query
  state : CommonState
  deriving Inhabited

/-- `WITH` 句が名指す共通表。参照できる状態で。 -/
def CommonTable.toDef : CommonTable → CommonDef
  | .mk n cols q => ⟨n.text, cols.map (·.text), q, .ready⟩

/-- 評価が見るもの: データベース、パラメーター、接続のカウンター、名前の段、共通表、
トリガーが走っているかどうか、ビューかトリガーの修飾のない名前を固定するスキーマ。 -/
structure Env where
  catalog : Catalog
  params : Array Value
  context : CallContext
  frames : List Frame
  common : List CommonDef
  inTrigger : Bool
  fixedSchema : Option String
  deriving Inhabited

/-- 問い合わせが与える行と、それらが持つ列。 -/
structure QueryResult where
  columns : Array SourceColumn
  rows : List (Array Value)
  deriving Inhabited

/-- 問い合わせの結果の列: 名前つきの式、または源の列。 -/
inductive OutColumn where
  | expr (e : Expr) (name : String)
  | slot (source column : Nat) (info : SourceColumn)
  deriving Inhabited

/-- 深すぎる入れ子の評価を終わらせる失敗。 -/
def tooDeep : SqlError := .logic "Expression tree is too large (maximum depth 1000)"

/-- `RAISE(IGNORE)` がそれを走らせるトリガーに知らせる失敗。 -/
def ignoreSignal : SqlError := ⟨0, "RAISE(IGNORE)"⟩

/-- 評価が始めるときの燃料。 -/
def evalFuel : Nat := 20000

namespace Env

/-- 内側の名前の段を足す。 -/
def push (env : Env) (f : Frame) : Env := { env with frames := f :: env.frames }

/-- ビューか共通表の問い合わせを評価するための枠: 外からのものはない。 -/
def detached (env : Env) (fixed : Option String) : Env :=
  { env with frames := [], fixedSchema := fixed }

end Env

/-- 段の今の行での源の列の値。 -/
def cellAt (frames : List Frame) (depth source column : Nat) : Value :=
  match frames[depth]? with
  | some f =>
    match f.rows[source]? with
    | some r => r.values.getD column .null
    | none => .null
  | none => .null

/-- 段での源の今の行の行番号。 -/
def rowidAt (frames : List Frame) (depth source : Nat) : Value :=
  match frames[depth]? with
  | some f =>
    match f.rows[source]? with
    | some r => match r.rowid with
      | some n => .integer n
      | none => .null
    | none => .null
  | none => .null

/-- 書いたとおりの整数の値。前にマイナスがあれば符号を変える: 64 ビットの範囲を超えれば実数。ただし
`-9223372036854775808` は除く。64 ビットを超える十六進の数は誤り。 -/
def integerLiteral (text : String) (negated : Bool) : Except SqlError Value :=
  let cs := text.toList
  match cs with
  | '0' :: x :: hex =>
    if x == 'x' || x == 'X' then
      let digits := hex.dropWhile (· == '0')
      let u := digits.foldl (fun n c => 16 * n + hexByteValue c.toNat) 0
      if digits.length > 16 then
        .error (.logic ("hex literal too big: " ++ (if negated then "-" else "") ++ text))
      else
        let v := Value.ofWord u
        if negated then
          if v == leastInt then
            .error (.logic ("hex literal too big: -" ++ text))
          else .ok (.integer (-v))
        else .ok (.integer v)
    else decimal cs
  | _ => decimal cs
where
  /-- 十進の整数。 -/
  decimal (cs : List Char) : Except SqlError Value :=
    let n : Nat := digitsValue cs
    if n ≤ 9223372036854775807 then .ok (.integer (if negated then -(n : Int) else n))
    else if n == 9223372036854775808 && negated then .ok (.integer leastInt)
    else
      let x := (readNumber cs).value
      .ok (.real (if negated then -x else x))

/-- 値の二つの列を、NULL を先にして、それぞれの照合順序で比べる。 -/
def compareRows (colls : List Collation) : List Value → List Value → Ordering
  | [], [] => .eq
  | [], _ => .lt
  | _, [] => .gt
  | a :: as, b :: bs =>
    match Value.compare (colls.headD .binary) a b with
    | .eq => compareRows colls.tail as bs
    | o => o

/-- 並べ替えのキーを比べる: 項ごとの照合順序、降順かどうか、求められたときの NULL の位置。 -/
def compareKeys (terms : List (Collation × Bool × Option Bool)) : List Value → List Value → Ordering
  | a :: as, b :: bs =>
    match terms with
    | (c, desc, nulls) :: rest =>
      let nullsFirst := nulls.getD !desc
      let o :=
        if a.isNull && b.isNull then Ordering.eq
        else if a.isNull then (if nullsFirst then .lt else .gt)
        else if b.isNull then (if nullsFirst then .gt else .lt)
        else
          let o := Value.compare c a b
          if desc then o.swap else o
      match o with
      | .eq => compareKeys rest as bs
      | o => o
    | [] => .eq
  | _, _ => .eq

/-- 等しい行の続きのそれぞれで最初のものを残す。 -/
def distinctRows (colls : List Collation) (rows : List (Array Value)) : List (Array Value) :=
  rows.foldl (fun acc r =>
    if acc.any (fun s => compareRows colls s.toList r.toList == .eq) then acc else acc ++ [r]) []

/-- 繰り返しのない行を、値の順に。 -/
def sortedSet (colls : List Collation) (rows : List (Array Value)) : List (Array Value) :=
  distinctRows colls (rows.mergeSort fun a b => compareRows colls a.toList b.toList != .gt)

/-- `a` の行のうち、`b` にもあるもの (`keep`) か `b` にないもの。 -/
def filterIn (colls : List Collation) (keep : Bool) (a b : List (Array Value)) :
    List (Array Value) :=
  a.filter fun r => b.any (fun s => compareRows colls r.toList s.toList == .eq) == keep

/-- 行にオフセットと数を当てる。 -/
def applyLimit {α : Type} (count : Option Nat) (offset : Nat) (rows : List α) : List α :=
  let rows := rows.drop offset
  match count with
  | some n => rows.take n
  | none => rows

/-- 集約の値。そのグループの行の引数の値の上で。 -/
def aggregateOf (name : String) (distinct : Bool) (coll : Collation) (star : Bool)
    (argRows : List (List Value)) : Except SqlError Value :=
  let key := String.ofList (name.toList.map foldAscii)
  let firsts := argRows.map fun r => r.headD .null
  let firsts := if distinct then
      (distinctRows [coll] ((firsts.filter (!·.isNull)).map fun v => #[v])).map (·.getD 0 .null)
    else firsts
  let present := firsts.filter (!·.isNull)
  match key with
  | "count" =>
    if star || argRows.all (·.isEmpty) then .ok (.integer argRows.length)
    else .ok (.integer present.length)
  | "sum" | "total" | "avg" =>
    let step := fun (acc : Int × Float × Bool × Bool) (v : Value) =>
      let (isum, rsum, approx, overflow) := acc
      match v.numeric, v with
      | _, .null => acc
      | some (.integer n), .integer _ =>
        let s := isum + n
        if approx || overflow then (isum, rsum + Float.ofInt n, approx, overflow)
        else if fitsInt s then (s, rsum + Float.ofInt n, approx, overflow)
        else (isum, rsum + Float.ofInt n, true, true)
      | some (.integer n), _ =>
        let s := isum + n
        if approx || overflow then (isum, rsum + Float.ofInt n, approx, overflow)
        else if fitsInt s then (s, rsum + Float.ofInt n, approx, overflow)
        else (isum, rsum + Float.ofInt n, true, true)
      | _, _ => (isum, rsum + v.toReal, true, overflow)
    let (isum, rsum, approx, overflow) := present.foldl step (0, 0.0, false, false)
    if key == "total" then .ok (.real rsum)
    else if present.isEmpty then .ok .null
    else if key == "avg" then .ok (.real (rsum / Float.ofNat present.length))
    else if overflow then .error (.logic "integer overflow")
    else if approx then .ok (.real rsum)
    else .ok (.integer isum)
  | "min" | "max" =>
    let better (a b : Value) : Bool :=
      let o := Value.compare coll a b
      if key == "max" then o == .lt else o == .gt
    .ok (present.foldl (fun best v => if best.isNull || better best v then v else best) .null)
  | "group_concat" =>
    let pieces := argRows.filterMap fun r =>
      match r with
      | v :: rest => if v.isNull then none else some (v, rest.head?)
      | [] => none
    match pieces with
    | [] => .ok .null
    | (v, _) :: more =>
      let first := (v.asText?).getD ""
      .ok (.text (more.foldl (fun acc (w, sep) =>
        let s := match sep with
          | some sv => (sv.asText?).getD ""
          | none => ","
        acc ++ s ++ (w.asText?).getD "") first))
  | _ => .ok .null

/-- 最初の値が等しい行のうち最初のものを残す。NULL どうしは等しい。 -/
def distinctTagged (coll : Collation) (rows : List (List Tagged)) : List (List Tagged) :=
  rows.foldl (fun acc r =>
    let v := (r.headD (.null, false)).1
    if acc.any (fun s => compareRows [coll] [(s.headD (.null, false)).1] [v] == .eq) then acc
    else acc ++ [r]) []

/-- 名前をその数の引数で呼ぶことが集約かどうか。 -/
def isAggregate (name : String) (count : Nat) : Bool :=
  match functionKind? name count with
  | .ok .aggregate => true
  | _ => false

/-- 値が等しい行の続きのそれぞれで最初のものを、付いてくるものとともに残す。 -/
def distinctPairs {α : Type} (colls : List Collation) (rows : List (Array Value × α)) :
    List (Array Value × α) :=
  rows.foldl (fun acc r =>
    if acc.any (fun s => compareRows colls s.1.toList r.1.toList == .eq) then acc else acc ++ [r]) []

/-- 項目それぞれとの比較からの `IN` の答え: どれかが成り立てば真、どれも成り立たずどれかが不明か左辺
が NULL なら NULL、それ以外は偽。`NOT IN` では否定する。 -/
def membership (negated : Bool) (leftNull : Bool) (tests : List Value) : Value :=
  if tests.any (·.truth? == some true) then Value.ofBool !negated
  else if leftNull || tests.any (·.isNull) then .null
  else Value.ofBool negated

/-- 数が合うとき、列に宣言した名前を与える。 -/
def renameColumns (cols : Array SourceColumn) (names : List String) : Array SourceColumn :=
  if names.isEmpty || names.length != cols.size then cols
  else (cols.toList.zip names).toArray.map fun (c, n) => { c with name := n }

/-- 与えた名前の列に隠れた印をつける。 -/
def hideColumns (names : List String) (b : Binding) : Binding :=
  let hide (col : SourceColumn) : SourceColumn :=
    if names.any (sameName · col.name) then { col with hidden := true } else col
  { b with columns := b.columns.map hide }

/-- 式が、副問い合わせの外の自分の段で集約を呼ぶかどうか。 -/
def hasAggregate : Nat → Expr → Bool
  | 0, _ => false
  | fuel + 1, e =>
    match e with
    | .call name _ args _ windowed =>
      (!windowed && isAggregate name.text args.length) ||
        args.any (hasAggregate fuel)
    | .unary _ a | .nullTest a _ | .cast a _ | .collate a _ => hasAggregate fuel a
    | .binary _ a b => hasAggregate fuel a || hasAggregate fuel b
    | .like _ _ a b c => hasAggregate fuel a || hasAggregate fuel b || c.any (hasAggregate fuel)
    | .between _ a b c => hasAggregate fuel a || hasAggregate fuel b || hasAggregate fuel c
    | .inList _ a items => hasAggregate fuel a || items.any (hasAggregate fuel)
    | .inQuery _ a _ | .inTable _ a _ _ => hasAggregate fuel a
    | .vector items => items.any (hasAggregate fuel)
    | .caseOf s arms o =>
      s.any (hasAggregate fuel) ||
        arms.any (fun (x, y) => hasAggregate fuel x || hasAggregate fuel y) ||
        o.any (hasAggregate fuel)
    | _ => false

/-- 式の自分の段での集約の呼び出し。 -/
def aggregateCalls : Nat → Expr → List (String × List Expr)
  | 0, _ => []
  | fuel + 1, e =>
    match e with
    | .call name _ args _ windowed =>
      if !windowed && isAggregate name.text args.length then [(name.text, args)]
      else args.flatMap (aggregateCalls fuel)
    | .unary _ a | .nullTest a _ | .cast a _ | .collate a _ => aggregateCalls fuel a
    | .binary _ a b => aggregateCalls fuel a ++ aggregateCalls fuel b
    | .like _ _ a b c => aggregateCalls fuel a ++ aggregateCalls fuel b ++ (c.toList.flatMap (aggregateCalls fuel))
    | .between _ a b c => aggregateCalls fuel a ++ aggregateCalls fuel b ++ aggregateCalls fuel c
    | .inList _ a items => aggregateCalls fuel a ++ items.flatMap (aggregateCalls fuel)
    | .inQuery _ a _ | .inTable _ a _ _ => aggregateCalls fuel a
    | .vector items => items.flatMap (aggregateCalls fuel)
    | .caseOf s arms o =>
      s.toList.flatMap (aggregateCalls fuel) ++
        arms.flatMap (fun (x, y) => aggregateCalls fuel x ++ aggregateCalls fuel y) ++
        o.toList.flatMap (aggregateCalls fuel)
    | _ => []

/-- 結果の列の名前: 別名、それがそうである列の名前、またはそのテキスト。 -/
def outName (e : Expr) (label : Option Name) (text : String) (frames : List Frame) : String :=
  match label with
  | some a => a.text
  | none =>
    match e with
    | .column path =>
      match lookupColumn frames path with
      | .ok (.column _ _ _ info) => info.name
      | .ok (.rowid _ _) => "rowid"
      | _ => (path.getLast?.map (·.text)).getD text
    | _ => text

/-- 問い合わせの結果の列を、その源の上に展開する: `*` は見せる列すべてに、`t.*` は `t` の列に。 -/
def expandColumns (bindings : List Binding) (frames : List Frame) :
    List ResultColumn → Except SqlError (List OutColumn)
  | [] => .ok []
  | c :: rest => do
    let mine ← match c with
      | .all =>
        if bindings.isEmpty then Except.error (SqlError.logic "no tables specified")
        else pure (bindings.zipIdx.flatMap fun (b, i) =>
          b.columns.toList.zipIdx.filterMap fun (col, j) =>
            if col.hidden then none else some (OutColumn.slot i j col))
      | .allOf t =>
        match bindings.zipIdx.filter (sameName ·.1.name t.text) with
        | [] => Except.error (SqlError.logic ("no such table: " ++ t.text))
        | hits => pure (hits.flatMap fun (b, i) =>
            b.columns.toList.zipIdx.map fun (col, j) => OutColumn.slot i j col)
      | .expr e label text => pure [OutColumn.expr e (outName e label text frames)]
    return mine ++ (← expandColumns bindings frames rest)

/-- 結果の列がほかの句で使うために与える別名。 -/
def outAliases : List ResultColumn → List (String × Expr)
  | [] => []
  | .expr e (some a) _ :: rest => (a.text, e) :: outAliases rest
  | _ :: rest => outAliases rest

/-- 一意にした列の名前: 繰り返した名前は `:1`、`:2`、… を得る。 -/
def uniqueNames (names : List String) : List String :=
  (names.foldl (fun (acc : List String) n =>
    if acc.any (sameName · n) then
      let rec pick : Nat → Nat → String
        | 0, k => n ++ ":" ++ toString k
        | fuel + 1, k =>
          let cand := n ++ ":" ++ toString k
          if acc.any (sameName · cand) then pick fuel (k + 1) else cand
      acc ++ [pick (acc.length + 1) 1]
    else acc ++ [n]) [])

/-- 届く範囲の、名前の共通表。 -/
def Env.commonTable? (env : Env) (name : String) : Option CommonDef :=
  env.common.find? (sameName ·.name name)

/-- 上限かオフセットの数: 整数、または整数であるテキストか実数。それ以外はデータ型の不一致。 -/
def limitNumber (v : Value) : Except SqlError Int :=
  match v with
  | .integer n => .ok n
  | .real x =>
    match wholeValue? x with
    | some n => .ok n
    | none => .error (.plain 20)
  | .text _ | .blob _ =>
    match Value.ofNumberText? v.charsOf true with
    | some (.integer n) => .ok n
    | _ => .error (.plain 20)
  | .null => .error (.plain 20)

/-- 結果の列の中での `ORDER BY` か `GROUP BY` の項の位置: 整数の定数は位置で列を選ぶ。 -/
def termPlace? (e : Expr) : Option Int :=
  match e with
  | .integer t =>
    match integerLiteral t false with
    | .ok (.integer n) => some n
    | _ => none
  | .unary .plus (.integer t) =>
    match integerLiteral t false with
    | .ok (.integer n) => some n
    | _ => none
  | _ => none

/-- 時計の関数が与える今の時刻。 -/
def clockText (word : String) : String :=
  if word == "CURRENT_DATE" then "2025-06-15"
  else if word == "CURRENT_TIME" then "15:06:40"
  else "2025-06-15 15:06:40"

/-- 序数: `1st`、`2nd`、`3rd`、`4th`、…。 -/
def ordinal (n : Nat) : String :=
  let suffix :=
    if n % 100 ≥ 11 && n % 100 ≤ 13 then "th"
    else if n % 10 == 1 then "st" else if n % 10 == 2 then "nd" else if n % 10 == 3 then "rd"
    else "th"
  toString n ++ suffix

/-- 複合の問い合わせの順の各項が見る所: 結果の列 (番号で、なければ名前で、なければ最初のもの) と、
並べる照合順序、向き、NULL の位置。 -/
def compoundPlaces (cols : Array SourceColumn) (order : List OrderTerm) :
    List (Nat × Collation × Bool × Option Bool) :=
  order.map fun (OrderTerm.mk e desc nulls) =>
    let idx := match termPlace? e with
      | some k => k.toNat - 1
      | none =>
        match e with
        | .column [n] => (cols.toList.findIdx? (sameName ·.name n.text)).getD 0
        | _ => 0
    let c := cols.getD idx default
    let coll := match e with
      | .collate _ name => (Collation.ofName? name).getD .binary
      | _ => c.collation.getD .binary
    (idx, coll, desc, nulls)

/-- 二つの行を順の位置で比べる。 -/
def comparePlaces (places : List (Nat × Collation × Bool × Option Bool)) (a b : Array Value) :
    Ordering :=
  compareKeys (places.map fun (_, c, d, n) => (c, d, n))
    (places.map fun (i, _, _, _) => a.getD i .null) (places.map fun (i, _, _, _) => b.getD i .null)

/-- 再帰的な共通表の一歩がその行を読む名前。NUL バイトがあるので、
書いたどの名前もそれにならない。 -/
def stepRowName (name : String) : String := "\x00" ++ name

/-- 単純な問い合わせの一番上の源のうち、スキーマなしで表を名指すものの数。 -/
def Simple.refsTo (name : String) : Simple → Nat
  | .select _ _ source _ _ _ =>
    (source.filter fun (Join.mk _ _ src _ _) =>
      match src with
      | .table none n _ => sameName n.text name
      | _ => false).length
  | .values _ => 0

/-- 一番上の表を名指す源が、代わりに一歩の行を読む単純な問い合わせ。 -/
def Simple.readStepRow (name : String) : Simple → Simple
  | .select d cols source filter g h =>
    .select d cols (source.map fun (Join.mk k nat src on u) =>
      let src := match src with
        | .table none n a =>
          if sameName n.text name then Source.table none ⟨stepRowName name, false⟩ (some (a.getD n))
          else src
        | other => other
      Join.mk k nat src on u) filter g h
  | s => s

/-- 走らせるために分けた再帰的な共通表の問い合わせ: 再帰的なものの前の部分、
一歩の行を読む再帰的な部分、前に見た行を落とすかどうか (`UNION`)、全体の順と上限、
再帰的な部分を書き換えた全体。 -/
structure Recursion where
  setup : Query
  steps : List Simple
  distinct : Bool
  order : List OrderTerm
  limit : Option (Expr × Option Expr)
  whole : Query

/-- 共通表の問い合わせがどう再帰するか。するなら: 問い合わせを終える `UNION` か `UNION ALL`
でつないだ最後の部分で、一番上でその表を一度名指すものが再帰的。最初の部分はそうならない。
二度名指す部分は誤り。 -/
def recursionOf (name : String) : Query → Except SqlError (Option Recursion)
  | .mk common first rest order limit => do
    match rest.getLast? with
    | none => return none
    | some (lastOp, _) =>
      if lastOp != .union && lastOp != .unionAll then return none
      let mut count := 0
      for (op, s) in rest.reverse do
        if op != lastOp then break
        let n := s.refsTo name
        if n ≥ 2 then throw (.logic ("multiple references to recursive table: " ++ name))
        if n == 0 then break
        count := count + 1
      if count == 0 then return none
      let kept := rest.take (rest.length - count)
      let recs := (rest.drop (rest.length - count)).map fun (op, s) => (op, s.readStepRow name)
      return some ⟨.mk common first kept [] none, recs.map (·.2), lastOp == .union, order, limit,
        .mk common first (kept ++ recs) order limit⟩

/-- 再帰的な共通表の待ち行列からとる行の最大。 -/
def recursionLimit : Nat := 10000000

mutual

/-- 式の値。 -/
def eval : Nat → Env → Expr → Except SqlError Value
  | 0, _, _ => .error tooDeep
  | f + 1, env, e =>
    match e with
    | .literal v => .ok v
    | .integer t => integerLiteral t false
    | .failure m => .error (.logic m)
    | .param slot => .ok (env.params.getD (slot - 1) .null)
    | .column path =>
      match lookupColumn env.frames path with
      | .ok (.column d s c _) => .ok (cellAt env.frames d s c)
      | .ok (.rowid d s) => .ok (rowidAt env.frames d s)
      | .ok (.label d a) => eval f { env with frames := env.frames.drop d } a
      | .ok (.text s) => .ok (.text s)
      | .ok (.truth b) => .ok (Value.ofBool b)
      | .error err => .error err
    | .unary .negate (.integer t) => integerLiteral t true
    | .unary op a => do
      let v ← eval f env a
      return match op with
        | .negate => v.negate
        | .plus => v
        | .bitNot => v.complement
        | .not => v.logicalNot
    | .binary op a b =>
      match op with
      | .and => do
        let x ← eval f env a
        if x.truth? == some false then return Value.ofBool false
        let y ← eval f env b
        return Value.logicalAnd x y
      | .or => do
        let x ← eval f env a
        if x.truth? == some true then return Value.ofBool true
        let y ← eval f env b
        return Value.logicalOr x y
      | .eq | .ne | .lt | .le | .gt | .ge | .is | .isNot => do
        match a, b with
        | .vector xs, .vector ys => compareVectors f env op xs ys
        | _, _ =>
          let x ← eval f env a
          let y ← eval f env b
          let aff := comparisonAffinity (exprAffinity env.frames 64 a) (exprAffinity env.frames 64 b)
          return Value.comparison op aff (comparisonCollation env.frames a b) x y
      | .add | .subtract | .multiply | .divide | .remainder => do
        return Value.arith op (← eval f env a) (← eval f env b)
      | .bitAnd | .bitOr | .shiftLeft | .shiftRight => do
        return Value.bits op (← eval f env a) (← eval f env b)
      | .concat => do return Value.concat (← eval f env a) (← eval f env b)
      | .extract | .extractValue => do
        let x ← eval f env a
        let y ← eval f env b
        return (← JsonCall.arrow (op matches .extract) x y).1
    | .nullTest a isNull => do
      let v ← eval f env a
      return Value.ofBool (v.isNull == isNull)
    | .like word negated a pattern escape => do
      if word == "REGEXP" then throw (.logic "no such function: REGEXP")
      if word == "MATCH" then
        let _ ← eval f env pattern
        let _ ← eval f env a
        throw (.logic "unable to use function MATCH in the requested context")
      let x ← eval f env a
      let p ← eval f env pattern
      let esc ← match escape with
        | some ex => some <$> eval f env ex
        | none => pure none
      let key := if word == "GLOB" then "glob" else "like"
      let args := [p, x] ++ esc.toList
      let r ← callScalar env.context key args
      return if negated then r.logicalNot else r
    | .between negated a lo hi => do
      let x ← eval f env a
      let l ← eval f env lo
      let h ← eval f env hi
      let affL := comparisonAffinity (exprAffinity env.frames 64 a) (exprAffinity env.frames 64 lo)
      let affH := comparisonAffinity (exprAffinity env.frames 64 a) (exprAffinity env.frames 64 hi)
      let r := Value.logicalAnd
        (Value.comparison .ge affL (comparisonCollation env.frames a lo) x l)
        (Value.comparison .le affH (comparisonCollation env.frames a hi) x h)
      return if negated then r.logicalNot else r
    | .inList negated a items => do
      if items.isEmpty then return Value.ofBool negated
      let x ← eval f env a
      let vs ← items.mapM (eval f env)
      let affA := exprAffinity env.frames 64 a
      let tests := (items.zip vs).map fun (item, v) =>
        Value.comparison .eq (comparisonAffinity affA (exprAffinity env.frames 64 item))
          (comparisonCollation env.frames a item) x v
      return membership negated x.isNull tests
    | .inQuery negated a q => do
      let x ← eval f env a
      let r ← evalQuery f env q none
      if r.rows.isEmpty then return Value.ofBool negated
      let col := r.columns.getD 0 default
      let aff := comparisonAffinity (exprAffinity env.frames 64 a) col.affinity
      let coll := if hasCollate 64 a then (exprCollation env.frames 64 a).getD .binary
        else ((exprCollation env.frames 64 a).orElse fun _ => col.collation).getD .binary
      let tests := r.rows.map fun row => Value.comparison .eq aff coll x (row.getD 0 .null)
      return membership negated x.isNull tests
    | .inTable negated a path _ => do
      let q : Query := .mk [] (.select false [.all] [.mk .first false
        (.table (if path.length > 1 then path.head? else none) (path.getLastD ⟨"", false⟩) none)
        none []] none [] none) [] [] none
      eval f env (.inQuery negated a q)
    | .exists q => do
      let r ← evalQuery f env q (some 1)
      return Value.ofBool !r.rows.isEmpty
    | .scalar q => do
      let r ← evalQuery f env q (some 1)
      match r.rows.head? with
      | some row => return row.getD 0 .null
      | none => return .null
    | .caseOf subject arms otherwise => do
      match subject with
      | some s =>
        let sv ← eval f env s
        caseWithSubject f env s sv arms otherwise
      | none => caseArms f env arms otherwise
    | .cast a t => do return Value.castTo (Affinity.ofType t) (← eval f env a)
    | .collate a _ => eval f env a
    | .call name distinct args star windowed =>
      let key := String.ofList (name.text.toList.map foldAscii)
      match functionKind? name.text args.length with
      | .ok .aggregate =>
        if windowed then .error (.logic ("misuse of window function " ++ name.text ++ "()"))
        else match env.frames with
          | fr :: rest =>
            match fr.group with
            | some groupRows => do
              let coll := (args.head?.bind (exprCollation env.frames 64)).getD .binary
              if key == "json_group_array" || key == "json_group_object" then
                let argRows ← groupRows.mapM fun r =>
                  args.mapM (evalTagged f { env with frames := { fr with rows := r, group := none } :: rest })
                let argRows := if distinct then distinctTagged coll argRows else argRows
                if key == "json_group_array" then JsonCall.groupArray (argRows.map (·.headD JsonCall.nothing))
                else JsonCall.groupObject (argRows.map fun r =>
                  (r.headD JsonCall.nothing, r.getD 1 JsonCall.nothing))
              else
                let argRows ← groupRows.mapM fun r =>
                  args.mapM (eval f { env with frames := { fr with rows := r, group := none } :: rest })
                aggregateOf name.text distinct coll star argRows
            | none => .error (.logic ("misuse of aggregate function " ++ name.text ++ "()"))
          | [] => .error (.logic ("misuse of aggregate function " ++ name.text ++ "()"))
      | .ok .window => .error (.logic ("misuse of window function " ++ name.text ++ "()"))
      | .ok .scalar =>
        if key == "coalesce" || key == "ifnull" then firstPresent f env args
        else if key == "iif" then
          match args with
          | [c, x, y] => caseArms f env [(c, x)] (some y)
          | _ => .ok .null
        else if key == "likely" || key == "unlikely" || key == "likelihood" then
          match args with
          | x :: _ => eval f env x
          | [] => .ok .null
        else if JsonCall.isScalar key then do
          let tagged ← args.mapM (evalTagged f env)
          return (← JsonCall.scalar key tagged).1
        else do
          let vs ← args.mapM (eval f env)
          if key == "min" || key == "max" then
            if vs.any (·.isNull) then return .null
            let coll := ((args.findSome? (exprCollation env.frames 64))).getD .binary
            return vs.foldl (fun best v =>
              let o := Value.compare coll v best
              if (key == "max" && o == .gt) || (key == "min" && o == .lt) then v else best)
              (vs.headD .null)
          callScalar env.context name.text vs
      | .error true =>
        .error (.logic ("wrong number of arguments to function " ++ name.text ++ "()"))
      | .error false => .error (.logic ("no such function: " ++ name.text))
    | .vector _ => .error (.logic "row value misused")
    | .raise kind message =>
      match kind with
      | none => .error ignoreSignal
      | some _ => .error ⟨1811, message⟩
    | .currentTime word => .ok (.text (clockText word))

/-- 式の値と、それが JSON のテキストかどうか: JSON を与える JSON 関数と演算子 `->`
が与えるものはそう。 -/
def evalTagged : Nat → Env → Expr → Except SqlError Tagged
  | 0, _, _ => .error tooDeep
  | f + 1, env, e =>
    match e with
    | .call name _ args _ false =>
      let key := String.ofList (name.text.toList.map foldAscii)
      match functionKind? name.text args.length with
      | .ok .scalar =>
        if JsonCall.isScalar key then do
          let tagged ← args.mapM (evalTagged f env)
          JsonCall.scalar key tagged
        else do return (← eval f env e, false)
      | .ok .aggregate =>
        if key == "json_group_array" || key == "json_group_object" then do
          return (← eval f env e, true)
        else do return (← eval f env e, false)
      | _ => do return (← eval f env e, false)
    | .binary .extract a b => do
      let x ← eval f env a
      let y ← eval f env b
      JsonCall.arrow true x y
    | _ => do return (← eval f env e, false)

/-- 二つの行の値を項ごとに比べる。 -/
def compareVectors : Nat → Env → BinaryOp → List Expr → List Expr → Except SqlError Value
  | 0, _, _, _, _ => .error tooDeep
  | f + 1, env, op, xs, ys => do
    if xs.length != ys.length then throw (.logic "row value misused")
    let pairs := xs.zip ys
    let vals ← pairs.mapM fun (a, b) => do
      let x ← eval f env a
      let y ← eval f env b
      let aff := comparisonAffinity (exprAffinity env.frames 64 a) (exprAffinity env.frames 64 b)
      return (x, y, aff, comparisonCollation env.frames a b)
    let eqs := vals.map fun (x, y, aff, c) => Value.comparison .eq aff c x y
    match op with
    | .eq => return eqs.foldl Value.logicalAnd (Value.ofBool true)
    | .ne => return (eqs.foldl Value.logicalAnd (Value.ofBool true)).logicalNot
    | _ =>
      let rec firstDiff : List (Value × Value × Option Affinity × Collation) → Value
        | [] => Value.comparison op none .binary (.integer 0) (.integer 0)
        | (x, y, aff, c) :: rest =>
          match Value.comparison .eq aff c x y with
          | .integer 1 => firstDiff rest
          | .null => .null
          | _ => Value.comparison op aff c x y
      return firstDiff vals

/-- NULL でない最初の引数。それより先は評価しない。 -/
def firstPresent : Nat → Env → List Expr → Except SqlError Value
  | 0, _, _ => .error tooDeep
  | _, _, [] => .ok .null
  | f + 1, env, a :: rest => do
    let v ← eval f env a
    if v.isNull then firstPresent f env rest else return v

/-- 主語のない `CASE` の値。 -/
def caseArms : Nat → Env → List (Expr × Expr) → Option Expr → Except SqlError Value
  | 0, _, _, _ => .error tooDeep
  | f + 1, env, [], otherwise =>
    match otherwise with
    | some o => eval f env o
    | none => .ok .null
  | f + 1, env, (w, t) :: rest, otherwise => do
    let c ← eval f env w
    if c.truth? == some true then eval f env t else caseArms f env rest otherwise

/-- 主語のある `CASE` の値。 -/
def caseWithSubject : Nat → Env → Expr → Value → List (Expr × Expr) → Option Expr →
    Except SqlError Value
  | 0, _, _, _, _, _ => .error tooDeep
  | f + 1, env, _, _, [], otherwise =>
    match otherwise with
    | some o => eval f env o
    | none => .ok .null
  | f + 1, env, s, sv, (w, t) :: rest, otherwise => do
    let wv ← eval f env w
    let aff := comparisonAffinity (exprAffinity env.frames 64 s) (exprAffinity env.frames 64 w)
    let r := Value.comparison .eq aff (comparisonCollation env.frames s w) sv wv
    if r.truth? == some true then eval f env t
    else caseWithSubject f env s sv rest otherwise

/-- 問い合わせの行。問い合わせがすべてを見なくてよいとき、`want` は要る行を抑える。 -/
def evalQuery : Nat → Env → Query → Option Nat → Except SqlError QueryResult
  | 0, _, _, _ => .error tooDeep
  | f + 1, env, .mk common first rest order limit, want => do
    let defs := common.map CommonTable.toDef
    let env := { env with common := defs ++ env.common }
    if rest.isEmpty then evalSimple f env first order limit want
    else
      let r0 ← evalSimple f env first [] none none
      let colls := r0.columns.toList.map fun c => c.collation.getD .binary
      let combined ← rest.foldlM (fun (acc : List (Array Value)) (op, s) => do
        let r ← evalSimple f env s [] none none
        return match op with
          | .unionAll => acc ++ r.rows
          | .union => sortedSet colls (acc ++ r.rows)
          | .intersect => filterIn colls true (sortedSet colls acc) r.rows
          | .except => filterIn colls false (sortedSet colls acc) r.rows) r0.rows
      let places := compoundPlaces r0.columns order
      let sorted := if places.isEmpty then combined
        else combined.mergeSort fun a b => comparePlaces places a b != .gt
      let (count, offset) ← limitValues f env limit
      return ⟨r0.columns, applyLimit count offset sorted⟩

/-- `LIMIT` 句の数とオフセット。 -/
def limitValues : Nat → Env → Option (Expr × Option Expr) → Except SqlError (Option Nat × Nat)
  | 0, _, _ => .error tooDeep
  | _, _, none => .ok (none, 0)
  | f + 1, env, some (c, o) => do
    let n ← limitNumber (← eval f { env with frames := [] } c)
    let off ← match o with
      | some oe => limitNumber (← eval f { env with frames := [] } oe)
      | none => pure 0
    return (if n < 0 then none else some n.toNat, off.toNat)

/-- 自分の順と上限をつけた単純な問い合わせの行。 -/
def evalSimple : Nat → Env → Simple → List OrderTerm → Option (Expr × Option Expr) → Option Nat →
    Except SqlError QueryResult
  | 0, _, _, _, _, _ => .error tooDeep
  | f + 1, env, .values rows, _, limit, _ => do
    let vals ← rows.mapM fun r => do return (← r.mapM (eval f env)).toArray
    let width := (rows.head?.map List.length).getD 0
    let cols := (List.range width).toArray.map fun i =>
      (⟨"column" ++ toString (i + 1), none, none, false⟩ : SourceColumn)
    let (count, offset) ← limitValues f env limit
    return ⟨cols, applyLimit count offset vals⟩
  | f + 1, env, .select distinct columns source filter groupBy having, order, limit, want => do
    let settings := env.context.settings
    let scanEnv := if settings.reverseUnordered && !(order.isEmpty && groupBy.isEmpty) then
        let kept := { settings with reverseUnordered := false }
        { env with context := { env.context with settings := kept } }
      else env
    let (bindings, combos) ← if source.isEmpty then pure ([], [[]]) else fromRows f scanEnv source
    let aliases := outAliases columns
    let frame : Frame := ⟨bindings, [], aliases, none⟩
    let outs ← expandColumns bindings (frame :: env.frames) columns
    let outExprs := outs.filterMap fun o => match o with
      | .expr e _ => some e
      | _ => none
    let orderExprs := order.map fun (OrderTerm.mk e _ _) => e
    let aggCalls := (outExprs ++ having.toList ++ orderExprs).flatMap (aggregateCalls 64)
    let isAgg := !groupBy.isEmpty || !aggCalls.isEmpty
    let (count, offset) ← limitValues f env limit
    let envAt (rows : List BoundRow) (group : Option (List (List BoundRow))) : Env :=
      env.push { frame with rows, group }
    let colInfo := outs.map fun o => match o with
      | .slot _ _ info => info
      | .expr e name =>
        let frs := frame :: env.frames
        (⟨name, exprAffinity frs 64 e, exprCollation frs 64 e, false⟩ : SourceColumn)
    let names := uniqueNames (colInfo.map (·.name))
    let colInfo := (colInfo.zip names).map fun (c, n) => { c with name := n }
    let orderInfo := order.map fun (OrderTerm.mk e desc nulls) =>
      let frs := frame :: env.frames
      let target := match termPlace? e with
        | some k => outs[k.toNat - 1]?
        | none => none
      let coll := match target with
        | some (.slot _ _ info) => info.collation.getD .binary
        | some (.expr oe _) => (exprCollation frs 64 oe).getD .binary
        | none => (exprCollation frs 64 e).getD .binary
      (coll, desc, nulls)
    let outColls := colInfo.map fun c => c.collation.getD .binary
    let evalRow (env' : Env) (rows : List BoundRow) : Except SqlError (Array Value × List Value) := do
      let vals ← outs.mapM fun o => match o with
        | .slot s c _ => pure (match rows[s]? with
          | some r => r.values.getD c .null
          | none => Value.null)
        | .expr e _ => eval f env' e
      let keys ← order.mapM fun (OrderTerm.mk e _ _) =>
        match termPlace? e with
        | some k => pure (vals.getD (k.toNat - 1) .null)
        | none => eval f env' e
      return (vals.toArray, keys)
    if !isAgg then
      let need : Option Nat :=
        if order.isEmpty && !distinct then
          match count, want with
          | some c, some w => some (min (c + offset) w)
          | some c, none => some (c + offset)
          | none, w => w
        else none
      let produced ← collectRows f env frame filter evalRow combos need
      let rows := if distinct then distinctPairs outColls produced else produced
      let rows := if order.isEmpty then rows
        else rows.mergeSort fun a b => compareKeys orderInfo a.2 b.2 != .gt
      return ⟨colInfo.toArray, applyLimit count offset (rows.map (·.1))⟩
    else
      let kept ← filterRows f env frame filter combos
      let groups ← if groupBy.isEmpty then pure [kept]
        else groupRows f env frame outs groupBy kept
      let minmax := match aggCalls with
        | [(n, [arg])] =>
          let k := String.ofList (n.toList.map foldAscii)
          if k == "min" || k == "max" then some (k == "max", arg) else none
        | _ => none
      let emptyRow : List BoundRow := bindings.map fun b =>
        ⟨(List.replicate b.columns.size Value.null).toArray, none⟩
      let results ← groups.filterMapM fun g => do
        let rep ← match minmax, g with
          | _, [] => pure emptyRow
          | some (isMax, arg), first :: _ => pickExtreme f env frame isMax arg g first
          | none, _ => pure (g.getLastD emptyRow)
        let env' := envAt rep (some g)
        let keep ← match having with
          | some h => do pure ((← eval f env' h).truth? == some true)
          | none => pure true
        if !keep then return none
        return some (← evalRow env' rep)
      let rows := if distinct then distinctPairs outColls results else results
      let rows := if order.isEmpty then rows
        else rows.mergeSort fun a b => compareKeys orderInfo a.2 b.2 != .gt
      return ⟨colInfo.toArray, applyLimit count offset (rows.map (·.1))⟩

/-- グループの行のうち、引数が最小か最大の値に達する最初のもの。 -/
def pickExtreme : Nat → Env → Frame → Bool → Expr → List (List BoundRow) → List BoundRow →
    Except SqlError (List BoundRow)
  | 0, _, _, _, _, _, _ => .error tooDeep
  | f + 1, env, frame, isMax, arg, g, first => do
    let coll := (exprCollation (frame :: env.frames) 64 arg).getD .binary
    let scored ← g.mapM fun r => do
      return (r, ← eval f (env.push { frame with rows := r, group := none }) arg)
    let best := scored.foldl (fun (acc : Option (List BoundRow × Value)) (r, v) =>
      if v.isNull then acc
      else match acc with
        | none => some (r, v)
        | some (_, bv) =>
          let o := Value.compare coll v bv
          if (isMax && o == .gt) || (!isMax && o == .lt) then some (r, v) else acc) none
    return (best.map (·.1)).getD (g.getLastD first)

/-- `WHERE` が残す行。 -/
def filterRows : Nat → Env → Frame → Option Expr → List (List BoundRow) →
    Except SqlError (List (List BoundRow))
  | 0, _, _, _, _ => .error tooDeep
  | f + 1, env, frame, filter, combos =>
    match filter with
    | none => .ok combos
    | some w => combos.filterM fun r => do
      return (← eval f (env.push { frame with rows := r }) w).truth? == some true

/-- 残した行を、十分に作るまで順に評価する。 -/
def collectRows : Nat → Env → Frame → Option Expr →
    (Env → List BoundRow → Except SqlError (Array Value × List Value)) →
    List (List BoundRow) → Option Nat → Except SqlError (List (Array Value × List Value))
  | 0, _, _, _, _, _, _ => .error tooDeep
  | _, _, _, _, _, [], _ => .ok []
  | f + 1, env, frame, filter, evalRow, r :: rest, need =>
    match need with
    | some 0 => .ok []
    | _ => do
      let env' := env.push { frame with rows := r }
      let keep ← match filter with
        | some w => do pure ((← eval f env' w).truth? == some true)
        | none => pure true
      if keep then
        let row ← evalRow env' r
        let more ← collectRows f env frame filter evalRow rest (need.map (· - 1))
        return row :: more
      else collectRows f env frame filter evalRow rest need

/-- 残した行を、`GROUP BY` の値が等しいグループに、その値の順に分ける。 -/
def groupRows : Nat → Env → Frame → List OutColumn → List Expr → List (List BoundRow) →
    Except SqlError (List (List (List BoundRow)))
  | 0, _, _, _, _, _ => .error tooDeep
  | f + 1, env, frame, outs, groupBy, kept => do
    let frs := frame :: env.frames
    let colls := groupBy.map fun e => (exprCollation frs 64 e).getD .binary
    let keyed ← kept.mapM fun r => do
      let env' := env.push { frame with rows := r }
      let key ← groupBy.mapM fun e =>
        match termPlace? e with
        | some k =>
          match outs[k.toNat - 1]? with
          | some (.expr oe _) => eval f env' oe
          | some (.slot s c _) => pure (match r[s]? with
            | some br => br.values.getD c .null
            | none => Value.null)
          | none => pure Value.null
        | none => eval f env' e
      return (key, r)
    let sorted := keyed.mergeSort fun a b => compareRows colls a.1 b.1 != .gt
    let grouped := sorted.foldl (fun (acc : List (List Value × List (List BoundRow))) (k, r) =>
      match acc with
      | (k', rs) :: more =>
        if compareRows colls k k' == .eq then (k', rs ++ [r]) :: more else (k, [r]) :: acc
      | [] => [(k, [r])]) []
    return grouped.reverse.map (·.2)

/-- つないだ `FROM` 句の源: その束縛と、組み合わせそれぞれの行。 -/
def fromRows : Nat → Env → List Join → Except SqlError (List Binding × List (List BoundRow))
  | 0, _, _ => .error tooDeep
  | _, _, [] => .ok ([], [[]])
  | f + 1, env, (Join.mk _ _ src _ _) :: rest => do
    let (bs, rs) ← sourceRows f env src
    joinRest f env bs rs rest

/-- そこまでにつないだものに、さらに源をつなぐ。 -/
def joinRest : Nat → Env → List Binding → List (List BoundRow) → List Join →
    Except SqlError (List Binding × List (List BoundRow))
  | 0, _, _, _, _ => .error tooDeep
  | _, _, bs, rs, [] => .ok (bs, rs)
  | f + 1, env, bs, rs, (Join.mk kind natural src on usingCols) :: rest => do
    let (bs2, rs2) ← sourceRows f env src
    let leftNames := bs.flatMap fun b => (b.columns.toList.filter (!·.hidden)).map (·.name)
    let rightNames := bs2.flatMap fun b => b.columns.toList.map (·.name)
    let common : List String :=
      if natural then rightNames.filter fun n => leftNames.any (sameName · n)
      else usingCols.map (·.text)
    for c in common do
      if !(leftNames.any (sameName · c)) || !(rightNames.any (sameName · c)) then
        throw (.logic ("cannot join using column " ++ c ++ " - column not present in both tables"))
    let bs2 := bs2.map (hideColumns common)
    let all := bs ++ bs2
    let frame : Frame := ⟨all, [], [], none⟩
    let usingExprs : List Expr := common.map fun c =>
      let lb := (bs.find? fun b => b.columns.any fun col => !col.hidden && sameName col.name c)
      let rb := bs2.find? fun b => b.columns.any fun col => sameName col.name c
      .binary .eq (.column [⟨(lb.map (·.name)).getD "", false⟩, ⟨c, false⟩])
        (.column [⟨(rb.map (·.name)).getD "", false⟩, ⟨c, false⟩])
    let cond : Option Expr := (usingExprs ++ on.toList).foldl (fun acc e =>
      match acc with
      | some a => some (.binary .and a e)
      | none => some e) none
    let test (l r : List BoundRow) : Except SqlError Bool :=
      match cond with
      | none => .ok true
      | some c => do
        return (← eval f (env.push { frame with rows := l ++ r }) c).truth? == some true
    let nullsOf (bs : List Binding) : List BoundRow :=
      bs.map fun b => ⟨(List.replicate b.columns.size Value.null).toArray, none⟩
    let pairs ← rs.mapM fun l => do
      let hits ← rs2.filterM fun r => test l r
      return (l, hits)
    let matched := pairs.flatMap fun (l, hits) =>
      if hits.isEmpty && (kind == .left || kind == .full) then [l ++ nullsOf bs2]
      else hits.map fun r => l ++ r
    let extra ← if kind == .right || kind == .full then
        rs2.filterM fun r => do
          let anyHit ← rs.anyM fun l => test l r
          return !anyHit
      else pure []
    let combined := matched ++ extra.map fun r => nullsOf bs ++ r
    joinRest f env all combined rest

/-- 一つの源の束縛と行。 -/
def sourceRows : Nat → Env → Source → Except SqlError (List Binding × List (List BoundRow))
  | 0, _, _ => .error tooDeep
  | f + 1, env, src =>
    match src with
    | .table schema name label =>
      let common := if schema.isNone then env.commonTable? name.text else none
      match common with
      | some d => do
        let r ← match d.state with
          | .fixed cols rows => pure (QueryResult.mk cols rows)
          | .blocked m => throw (.logic (m ++ d.name))
          | .ready => commonRows f env d
        let cols := renameColumns r.columns d.columns
        return ([⟨(label.map (·.text)).getD d.name, none, cols, false, d.name⟩],
          r.rows.map fun row => [⟨row, none⟩])
      | none =>
        let schemaName := (schema.map (·.text)).orElse fun _ => env.fixedSchema
        match env.catalog.relation? schemaName name.text with
        | none =>
          .error (.logic ("no such table: " ++
            ((schemaName.map (· ++ ".")).getD "") ++ name.text))
        | some (.table sn t) =>
          let rows := if env.context.settings.reverseUnordered then t.rows.toList.reverse
            else t.rows.toList
          .ok ([⟨(label.map (·.text)).getD t.name, some sn, t.sourceColumns, !t.withoutRowid, t.name⟩],
            rows.map fun r => [⟨r.values, if t.withoutRowid then none else some r.rowid⟩])
        | some (.view sn v) => do
          let r ← evalQuery f (env.detached (some sn)) v.query none
          let cols := renameColumns r.columns v.columns
          return ([⟨(label.map (·.text)).getD v.name, some sn, cols, false, v.name⟩],
            r.rows.map fun row => [⟨row, none⟩])
        | some (.master sn) =>
          let d := ((env.catalog.schema? sn).map (·.2)).getD default
          .ok ([⟨(label.map (·.text)).getD name.text, some sn, masterColumns, true, masterName sn⟩],
            (masterRows d).map fun r => [r])
    | .function _ name _ _ => .error (.logic ("no such table: " ++ name.text))
    | .query q label => do
      let r ← evalQuery f env q none
      return ([⟨(label.map (·.text)).getD "", none, r.columns, false, (label.map (·.text)).getD ""⟩],
        r.rows.map fun row => [⟨row, none⟩])
    | .group joins _ => fromRows f env joins

/-- 共通表の行: 表自身への参照が循環するところで走らせたその問い合わせ、またはその再帰。 -/
def commonRows : Nat → Env → CommonDef → Except SqlError QueryResult
  | 0, _, _ => .error tooDeep
  | f + 1, env, d => do
    let inner : Env :=
      { env with frames := [], common := { d with state := .blocked "circular reference: " } :: env.common }
    match ← recursionOf d.name d.query with
    | none => evalQuery f inner d.query none
    | some r => recursiveRows f inner d r

/-- 再帰的な共通表の行。始まりの行を待ち行列に入れ、そこからとった行は (オフセットを過ぎ、
上限に達するまで) 出し、その上で再帰的な部分を走らせて、その行を待ち行列に入れる。`UNION`
のもとでは前に見た行を落とす。順があれば待ち行列は最小の行を先に、なければ最も古いものを与える。 -/
def recursiveRows : Nat → Env → CommonDef → Recursion → Except SqlError QueryResult
  | 0, _, _, _ => .error tooDeep
  | f + 1, env, d, r => do
    let (count, offset) ← limitValues f env r.limit
    if count == some 0 then
      let setup ← evalQuery f env r.setup (some 0)
      return ⟨renameColumns setup.columns d.columns, []⟩
    let setup ← evalQuery f env r.setup none
    let cols := renameColumns setup.columns d.columns
    let colls := cols.toList.map fun c => c.collation.getD .binary
    let places := compoundPlaces cols r.order
    let own := match r.setup with
      | .mk common .. => common.map CommonTable.toDef
    let enqueue (queue seen : Array (Array Value)) (rows : List (Array Value)) :
        Array (Array Value) × Array (Array Value) :=
      rows.foldl (fun (queue, seen) row =>
        if r.distinct && seen.any (fun s => compareRows colls s.toList row.toList == .eq) then
          (queue, seen)
        else
          let seen := if r.distinct then seen.push row else seen
          let place := if places.isEmpty then queue.size
            else (queue.toList.findIdx? fun q => comparePlaces places row q == .lt).getD queue.size
          (queue.insertIdxIfInBounds place row, seen)) (queue, seen)
    let (start, seen0) := enqueue #[] #[] setup.rows
    let mut queue := start
    let mut seen := seen0
    let mut head := 0
    let mut out : Array (Array Value) := #[]
    let mut skip := offset
    for _ in [0:recursionLimit] do
      match queue[head]? with
      | none => break
      | some row =>
        head := head + 1
        if skip > 0 then skip := skip - 1
        else
          out := out.push row
          if count == some out.size then break
        let stepEnv : Env :=
          { env with common := ⟨stepRowName d.name, [], default, .fixed cols [row]⟩ :: own ++ env.common }
        let mut found : List (Array Value) := []
        for s in r.steps do
          let rs ← evalSimple f stepEnv s [] none none
          found := found ++ rs.rows
        if places.isEmpty then
          let (q, sn) := enqueue queue seen found
          queue := q
          seen := sn
        else
          let (q, sn) := enqueue (queue.extract head queue.size) seen found
          queue := q
          seen := sn
          head := 0
    return ⟨cols, out.toList⟩
end

end HttpCaching.Sql
