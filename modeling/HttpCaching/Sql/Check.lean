import HttpCaching.Sql.Eval
/-!
# 準備のときの検査

文を走らせる前に、名前と形の誤りを見つける。誤りは行を一つも見なくても出るので、空の表に
対する問い合わせでも同じ誤りになる。検査は二段。

1. 展開: 文のすべての問い合わせについて、`FROM` の表・ビュー・共通表を探し (`no such table`)、
   `USING` の列を確かめ、`*` と `t.*` を広げる。ビューはここでその問い合わせを検査して列を
   得る。複合の問い合わせは右から、`FROM` の副問い合わせは出てきた所で、式の中の
   副問い合わせは `FROM` の後に見る。最初の誤りで止まる。
2. 名前の解決: 一つの問い合わせについて `LIMIT` (名前なしで)、`FROM` の副問い合わせ、結果の列、
   `HAVING`、`WHERE` (`ON` の条件を後ろに足したもの)、`GROUP BY`、`ORDER BY` の順。
   一つの式の中では誤りを記録しながら最後まで歩き、最後の誤りが残る。関数は自身の検査の後に
   引数を歩く。並びの中では誤りのある最初の項目で止まる。副問い合わせの中の誤りはすぐに
   止める。
-/
namespace HttpCaching.Sql

/-- 書き留めた二つの失敗の後のほうを残す。 -/
def laterFailure (a b : Option SqlError) : Option SqlError :=
  match b with
  | some _ => b
  | none => a

/-- 引数を見る前の、関数の呼び出しそのものの失敗: 知らない名前、違う数、あってはならない所の集約、
ウィンドウのないウィンドウ関数。 -/
def callFailure (name : String) (args : Nat) (windowed allowAggregate : Bool) : Option SqlError :=
  match functionKind? name args with
  | .error false => some (.logic ("no such function: " ++ name))
  | .error true => some (.logic ("wrong number of arguments to function " ++ name ++ "()"))
  | .ok .aggregate =>
    if windowed || allowAggregate then none
    else some (.logic ("misuse of aggregate function " ++ name ++ "()"))
  | .ok .window =>
    if windowed then none else some (.logic ("misuse of window function " ++ name ++ "()"))
  | .ok .scalar =>
    if windowed then some (.logic (name ++ "() may not be used as a window function")) else none

/-- 二つ目の引数が 0.0 から 1.0 の浮動小数点数のリテラルでない `likelihood` の呼び出しの失敗。 -/
def likelihoodFailure (name : String) (args : List Expr) : Option SqlError :=
  if nameKey name != Text.bytesOf "likelihood" then none
  else match args with
    | [_, .literal (.real r)] => if r ≤ 1.0 then none else some (message name)
    | [_, _] => some (message name)
    | _ => none
where
  /-- 書いたとおりの名前をつけた文。 -/
  message (name : String) : SqlError :=
    .logic ("second argument to " ++ name ++ "() must be a constant between 0.0 and 1.0")

/-- 式が表す値の数: 行の値の項目、それ以外は一。 -/
def vectorSize : Expr → Nat
  | .vector items => items.length
  | _ => 1

/-- 列の数の違う複合の部分の文。 -/
def wrongTermsFailure (values : Bool) (op : CompoundOp) : SqlError :=
  if values then .logic "all VALUES must have the same number of terms"
  else .logic ("SELECTs to the left and right of " ++ op.word ++
    " do not have the same number of result columns")

/-- 複合の問い合わせの `ORDER BY` の項が、その結果の列のどれかを名指すかどうか。 -/
def matchesColumn (cols : Array SourceColumn) (e : Expr) : Bool :=
  match e with
  | .column [n] => cols.any (sameName ·.name n.text)
  | .collate (.column [n]) _ => cols.any (sameName ·.name n.text)
  | _ => false

/-- つなぎの片側にない `USING` の列の失敗。左から右へ確かめる。 -/
def joinFailure (bindings : List (List Binding)) (joins : List Join) : Option SqlError :=
  let rec go : List (List Binding) → List Join → List Binding → Option SqlError
    | bs :: more, (Join.mk _ natural _ _ usingCols) :: rest, left =>
      let leftNames := left.flatMap fun b => (b.columns.toList.filter (!·.hidden)).map (·.name)
      let rightNames := bs.flatMap fun b => b.columns.toList.map (·.name)
      let missing := if natural then none
        else usingCols.find? fun c =>
          !(leftNames.any (sameName · c.text)) || !(rightNames.any (sameName · c.text))
      match missing with
      | some c => some (.logic ("cannot join using column " ++ c.text ++
          " - column not present in both tables"))
      | none => go more rest (left ++ bs)
    | _, _, _ => none
  go bindings joins []

/-- つないだ源の束縛。後の源それぞれの `USING` と自然なつなぎの列を隠して。 -/
def hideJoined (parts : List (List Binding)) (joins : List Join) : List Binding :=
  let rec go : List (List Binding) → List Join → List Binding → List Binding
    | bs :: more, (Join.mk _ natural _ _ usingCols) :: rest, left =>
      let leftNames := left.flatMap fun b => (b.columns.toList.filter (!·.hidden)).map (·.name)
      let rightNames := bs.flatMap fun b => b.columns.toList.map (·.name)
      let common : List String :=
        if natural then rightNames.filter fun n => leftNames.any (sameName · n)
        else usingCols.map (·.text)
      go more rest (left ++ bs.map (hideColumns common))
    | _, _, left => left
  go parts joins []

mutual

/-- 式の中の名前の失敗を見つけ、最後に見つけたものを残す。副問い合わせの中の失敗はすぐに止める。
`aggregates` は集約の呼び出しがここに立ってよいかどうかを言う。 -/
def checkExpr : Nat → Env → Bool → Expr → Except SqlError (Option SqlError)
  | 0, _, _, _ => .error tooDeep
  | f + 1, env, aggregates, e =>
    match e with
    | .literal _ | .param _ | .currentTime _ => .ok none
    | .failure m => .ok (some (.logic m))
    | .integer t =>
      .ok (match integerLiteral t false with
        | .error err => some err
        | .ok _ => none)
    | .unary .negate (.integer t) =>
      .ok (match integerLiteral t true with
        | .error err => some err
        | .ok _ => none)
    | .column path =>
      match lookupColumn env.frames path with
      | .ok (.label _ a) =>
        if !aggregates && hasAggregate 64 a then
          .error (.logic ("misuse of aliased aggregate " ++ ((path.getLast?.map (·.text)).getD "")))
        else .ok none
      | .ok _ => .ok none
      | .error err => .ok (some err)
    | .unary _ a | .nullTest a _ | .cast a _ | .collate a _ => checkExprs f env aggregates none [a]
    | .binary op a b =>
      let own := match op with
        | .eq | .ne | .lt | .le | .gt | .ge | .is | .isNot =>
          if vectorSize a != vectorSize b then some (SqlError.logic "row value misused") else none
        | _ => none
      checkExprs f env aggregates own [a, b]
    | .like word _ a p esc =>
      let own := if word == "REGEXP" then some (SqlError.logic "no such function: REGEXP") else none
      checkExprs f env aggregates own ([p, a] ++ esc.toList)
    | .between _ a lo hi => checkExprs f env aggregates none [a, lo, hi]
    | .inList _ a items => checkExprs f env aggregates none (a :: items)
    | .inQuery _ a q => do
      let found ← checkExprs f env aggregates none [a]
      let cols ← queryColumns f env q
      if cols.size != vectorSize a then
        return laterFailure found (some (.logic ("sub-select returns " ++ toString cols.size ++
          " columns - expected " ++ toString (vectorSize a))))
      return found
    | .inTable _ a path _ => do
      let found ← checkExprs f env aggregates none [a]
      let schema := if path.length > 1 then path.head?.map (·.text) else none
      let name := (path.getLast?.map (·.text)).getD ""
      match env.catalog.relation? schema name, env.commonTable? name with
      | none, none => throw (.logic ("no such table: " ++ ((schema.map (· ++ ".")).getD "") ++ name))
      | _, _ => return found
    | .exists q => do
      let _ ← queryColumns f env q
      return none
    | .scalar q => do
      let cols ← queryColumns f env q
      if cols.size != 1 then
        return some (.logic ("sub-select returns " ++ toString cols.size ++ " columns - expected 1"))
      return none
    | .caseOf s arms o =>
      checkExprs f env aggregates none (s.toList ++ arms.flatMap (fun (x, y) => [x, y]) ++ o.toList)
    | .vector items => checkExprs f env aggregates none items
    | .raise _ _ =>
      .ok (if env.inTrigger then none
        else some (.logic "RAISE() may only be used within a trigger-program"))
    | .call name _ args _ windowed =>
      let own := (callFailure name.text args.length windowed aggregates).orElse fun _ =>
        likelihoodFailure name.text args
      let inner := aggregates && !isAggregate name.text args.length
      checkExprs f env (inner && !windowed) own args

/-- 既に見つけた失敗から始めて、式を順に確かめる。 -/
def checkExprs : Nat → Env → Bool → Option SqlError → List Expr → Except SqlError (Option SqlError)
  | 0, _, _, _, _ => .error tooDeep
  | _, _, _, found, [] => .ok found
  | f + 1, env, aggregates, found, e :: rest => do
    let here ← checkExpr f env aggregates e
    checkExprs f env aggregates (laterFailure found here) rest

/-- リストの項目を順に確かめ、失敗のある最初のもので止まる。 -/
def checkList : Nat → Env → Bool → List Expr → Except SqlError Unit
  | 0, _, _, _ => .error tooDeep
  | _, _, _, [] => .ok ()
  | f + 1, env, aggregates, e :: rest => do
    match ← checkExpr f env aggregates e with
    | some err => throw err
    | none => checkList f env aggregates rest

/-- 式全体を確かめる: その最後の失敗があれば、それが文の失敗。 -/
def checkWhole : Nat → Env → Bool → Expr → Except SqlError Unit
  | 0, _, _, _ => .error tooDeep
  | f + 1, env, aggregates, e => do
    match ← checkExpr f env aggregates e with
    | some err => throw err
    | none => pure ()

/-- 問い合わせを確かめ、その結果の列を与える。 -/
def queryColumns : Nat → Env → Query → Except SqlError (Array SourceColumn)
  | 0, _, _ => .error tooDeep
  | f + 1, env, .mk common first rest order limit => do
    let defs := common.map CommonTable.toDef
    let env := { env with common := defs ++ env.common }
    if rest.isEmpty then simpleColumns f env first order limit
    else
      match limit with
      | some (c, o) => checkList f { env with frames := [] } false (c :: o.toList)
      | none => pure ()
      let parts := (none, first) :: rest.map fun (op, s) => (some op, s)
      let (_, shapes) ← parts.reverse.foldlM (fun (acc : Option (Nat × Option CompoundOp × Bool) ×
          List (Array SourceColumn)) (op, s) => do
        let (right, shapes) := acc
        let cols ← simpleColumns f env s [] none
        let isValues := match s with
          | .values _ => true
          | _ => false
        if let some (n, rop, rvalues) := right then
          if n != cols.size then throw (wrongTermsFailure rvalues (rop.getD .union))
        return (some (cols.size, op, isValues), cols :: shapes)) (none, [])
      let cols := shapes.headD #[]
      order.zipIdx.forM fun (OrderTerm.mk e _ _, i) => do
        match termPlace? e with
        | some k =>
          if k < 1 || k > cols.size then
            throw (.logic (ordinal (i + 1) ++ " ORDER BY term out of range - should be between 1 and " ++
              toString cols.size))
        | none =>
          if !(matchesColumn cols e) then
            throw (.logic (ordinal (i + 1) ++
              " ORDER BY term does not match any column in the result set"))
      return cols

/-- 単純な問い合わせを順と上限とともに確かめ、その結果の列を与える。 -/
def simpleColumns : Nat → Env → Simple → List OrderTerm → Option (Expr × Option Expr) →
    Except SqlError (Array SourceColumn)
  | 0, _, _, _, _ => .error tooDeep
  | f + 1, env, .values rows, _, _ => do
    let width := (rows.head?.map List.length).getD 0
    let _ ← rows.reverse.foldlM (fun (right : Option Nat) r => do
      checkList f env false r
      if let some n := right then
        if n != r.length then throw (wrongTermsFailure true .unionAll)
      return some r.length) none
    return (List.range width).toArray.map fun i =>
      (⟨"column" ++ toString (i + 1), none, none, false⟩ : SourceColumn)
  | f + 1, env, .select _ columns source filter groupBy having, order, limit => do
    match limit with
    | some (c, o) => checkList f { env with frames := [] } false (c :: o.toList)
    | none => pure ()
    let bindings ← fromBindings f env source
    let bare : Frame := ⟨bindings, [], [], none⟩
    let outs ← expandColumns bindings (bare :: env.frames) columns
    let outExprs := outs.filterMap fun o => match o with
      | .expr e _ => some e
      | _ => none
    let inner := env.push bare
    checkList f inner true outExprs
    let isAgg := !groupBy.isEmpty || outExprs.any (hasAggregate 64)
    let withAliases := env.push { bare with aliases := outAliases columns }
    if let some h := having then
      if !isAgg then throw (.logic "HAVING clause on a non-aggregate query")
      checkWhole f withAliases true h
    let ons := source.filterMap fun (Join.mk _ _ _ on _) => on
    let whereTerms := filter.toList ++ ons
    match whereTerms with
    | [] => pure ()
    | t :: more =>
      checkWhole f withAliases false (more.foldl (fun acc x => Expr.binary .and acc x) t)
    groupBy.zipIdx.forM fun (e, i) => do
      match termPlace? e with
      | some k =>
        if k < 1 || k > outs.length then
          throw (.logic (ordinal (i + 1) ++ " GROUP BY term out of range - should be between 1 and " ++
            toString outs.length))
      | none =>
        checkWhole f withAliases false e
        if hasAggregate 64 e then throw (.logic "aggregate functions are not allowed in the GROUP BY clause")
    order.zipIdx.forM fun (OrderTerm.mk e _ _, i) => do
      match termPlace? e with
      | some k =>
        if k < 1 || k > outs.length then
          throw (.logic (ordinal (i + 1) ++ " ORDER BY term out of range - should be between 1 and " ++
            toString outs.length))
      | none => checkWhole f withAliases isAgg e
    let frs := bare :: env.frames
    let infos := outs.map fun o => match o with
      | .slot _ _ info => { info with hidden := false }
      | .expr e name => (⟨name, exprAffinity frs 64 e, exprCollation frs 64 e, false⟩ : SourceColumn)
    let names := uniqueNames (infos.map (·.name))
    return ((infos.zip names).map fun (c, n) => { c with name := n }).toArray

/-- `FROM` 句の源の束縛。それぞれを探して。後の源の `USING` の列は隠す。 -/
def fromBindings : Nat → Env → List Join → Except SqlError (List Binding)
  | 0, _, _ => .error tooDeep
  | f + 1, env, joins => do
    let parts ← joins.mapM fun (Join.mk _ _ src _ _) => sourceBindings f env src
    match joinFailure parts joins with
    | some err => throw err
    | none => return hideJoined parts joins

/-- 一つの源が与える束縛。 -/
def sourceBindings : Nat → Env → Source → Except SqlError (List Binding)
  | 0, _, _ => .error tooDeep
  | f + 1, env, src =>
    match src with
    | .table schema name label =>
      let common := if schema.isNone then env.commonTable? name.text else none
      match common with
      | some d => do
        let cols ← match d.state with
          | .fixed cols _ => pure cols
          | .blocked m => throw (.logic (m ++ d.name))
          | .ready => commonColumns f env d
        if !d.columns.isEmpty && d.columns.length != cols.size then
          throw (.logic ("table " ++ d.name ++ " has " ++ toString cols.size ++ " values for " ++
            toString d.columns.length ++ " columns"))
        return [⟨(label.map (·.text)).getD d.name, none, renameColumns cols d.columns, false, d.name⟩]
      | none =>
        let schemaName := (schema.map (·.text)).orElse fun _ => env.fixedSchema
        match env.catalog.relation? schemaName name.text with
        | none =>
          .error (.logic ("no such table: " ++ ((schemaName.map (· ++ ".")).getD "") ++ name.text))
        | some (.table sn t) =>
          .ok [⟨(label.map (·.text)).getD t.name, some sn, t.sourceColumns, !t.withoutRowid, t.name⟩]
        | some (.view sn v) => do
          let cols ← queryColumns f (env.detached (some sn)) v.query
          if !v.columns.isEmpty && v.columns.length != cols.size then
            throw (.logic ("expected " ++ toString v.columns.length ++ " columns for '" ++ v.name ++
              "' but got " ++ toString cols.size))
          return [⟨(label.map (·.text)).getD v.name, some sn, renameColumns cols v.columns, false, v.name⟩]
        | some (.master sn) =>
          .ok [⟨(label.map (·.text)).getD name.text, some sn, masterColumns, true, masterName sn⟩]
    | .function _ name _ _ => .error (.logic ("no such table: " ++ name.text))
    | .query q label => do
      let cols ← queryColumns f env q
      return [⟨(label.map (·.text)).getD "", none, cols, false, (label.map (·.text)).getD ""⟩]
    | .group joins _ => fromBindings f env joins

/-- 共通表の問い合わせを確かめ (表自身への参照は、再帰的な部分のものでなければ循環する)、
その列を与える: 最初の部分のもの。 -/
def commonColumns : Nat → Env → CommonDef → Except SqlError (Array SourceColumn)
  | 0, _, _ => .error tooDeep
  | f + 1, env, d => do
    let inner : Env :=
      { env with frames := [], common := { d with state := .blocked "circular reference: " } :: env.common }
    match ← recursionOf d.name d.query with
    | none => queryColumns f inner d.query
    | some r =>
      let cols ← queryColumns f inner r.setup
      let step : CommonDef := ⟨stepRowName d.name, [], default, .fixed (renameColumns cols d.columns) []⟩
      let _ ← queryColumns f { inner with common := step :: inner.common } r.whole
      return cols

end

/-- 接続の設定のもとで問い合わせの行が通る名前。その最初の単純な問い合わせから。
別名のある結果の列はそれで名をつける。表の列であるものは列で名をつけ (行番号は、
あれば表の整数の主キーで)、`full_column_names` のもとでは前に表の自分の名前をつけ、それも
`short_column_names` も入っていなければそのテキストで名をつける。`*` と `t.*` は列それぞれを名指し、
`full_column_names` が入り `short_column_names` が切れていれば前に源の名前をつける。
ほかのものはそのテキストで名をつける。 -/
def outputNames (f : Nat) (env : Env) (q : Query) : Except SqlError (List String) := do
  let .mk common first _ _ _ := q
  match first with
  | .values rows =>
    return (List.range ((rows.head?.map List.length).getD 0)).map fun i => "column" ++ toString (i + 1)
  | .select _ columns source _ _ _ =>
    let env := { env with common := common.map CommonTable.toDef ++ env.common }
    let bindings ← fromBindings f env source
    let s := env.context.settings
    let srcName := s.shortColumnNames || s.fullColumnNames
    let longStar := s.fullColumnNames && !s.shortColumnNames
    let frames : List Frame := ⟨bindings, [], [], none⟩ :: env.frames
    let starNames (b : Binding) (all : Bool) : List String :=
      b.columns.toList.filterMap fun col =>
        if all && col.hidden then none
        else some (if longStar then b.name ++ "." ++ col.name else col.name)
    let full (b : Option Binding) (col : String) : String :=
      if s.fullColumnNames then ((b.map (·.origin)).getD "") ++ "." ++ col else col
    let rowidName (b : Option Binding) : String :=
      let ipk := b.bind fun b =>
        match env.catalog.relation? b.schema b.origin with
        | some (.table _ t) => t.rowidAlias.bind fun k => t.columns[k]?.map (·.name)
        | _ => none
      ipk.getD "rowid"
    return columns.flatMap fun c =>
      match c with
      | .all => bindings.flatMap (starNames · true)
      | .allOf t => (bindings.filter (sameName ·.name t.text)).flatMap (starNames · false)
      | .expr e label text =>
        match label, e with
        | some a, _ => [a.text]
        | none, .column path =>
          if !srcName then [text]
          else
            match lookupColumn frames path with
            | .ok (.column 0 i _ info) => [full bindings[i]? info.name]
            | .ok (.rowid 0 i) => [full bindings[i]? (rowidName bindings[i]?)]
            | _ => [text]
        | none, _ => [text]

end HttpCaching.Sql
