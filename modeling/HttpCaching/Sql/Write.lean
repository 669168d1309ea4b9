import HttpCaching.Sql.Check
import HttpCaching.Sql.Pages
import HttpCaching.Sql.ForeignKey
/-!
# 行を書く文

`INSERT`・`UPDATE`・`DELETE` と、それが起こすトリガー。

* 一行を入れる (変える) ときの検査の順: `NOT NULL` (列の順)、`CHECK` (宣言の順、その前に
  列の親和性を当てる)、行番号の重なり、一意の索引の重なり (索引の並びの順、`REPLACE` で
  解く索引は後)。STRICT の表の型の検査は、`CHECK` があればその前、なければ最後。
* 衝突の解き方は文の `OR` 句、なければ制約の `ON CONFLICT`、なければ `ABORT`。`IGNORE` は
  その行を飛ばし、`REPLACE` は重なった行を消す (`NOT NULL` なら既定値を入れる)。`UPSERT` の
  句が当てはまる重なりは、その句に従う。
* `UPDATE` は変えた列の `NOT NULL`、変えた列を見る `CHECK`、変えた列を含む索引だけを検査
  する。
* 行番号は、与えられなければ最大の行番号の次 (`AUTOINCREMENT` なら `sqlite_sequence` に
  覚えた値とも比べる)。与えられた行番号は整数でなければ `datatype mismatch`。
* トリガーは新しく作ったものから順に、`WHEN` が真のときに本体を走らせる。`NEW` と `OLD` は
  表の名前を付けてだけ使える。`RAISE(IGNORE)` は `BEFORE` トリガーでは行を飛ばす。
* 文の終わりに、データベースがページの上限を越えていないかを見る。
-/
namespace HttpCaching.Sql

/-- 文が行のほかに変え、読むもの: データベース、接続のカウンター、パラメーター、走っているトリガー、
スキーマごとのページの上限。 -/
structure Work where
  catalog : Catalog
  context : CallContext
  params : Array Value
  running : List String
  pageLimits : List (String × Nat)
  /-- 外部キーの設定と、数えた違反。 -/
  keys : KeyCounts
  deriving Inhabited

/-- ほかに何も設定しないときにデータベースが持てるページの最大。 -/
def defaultPageLimit : Nat := 1073741823

namespace Work

/-- 式を評価する環境。 -/
def env (w : Work) : Env := ⟨w.catalog, w.params, w.context, [], [], !w.running.isEmpty, none⟩

/-- スキーマのデータベース。 -/
def database (w : Work) (schema : String) : Database :=
  ((w.catalog.schema? schema).map (·.2)).getD default

/-- スキーマの中の名前の表。 -/
def table? (w : Work) (schema name : String) : Option Table := (w.database schema).findTable name

/-- スキーマのデータベースを変える。 -/
def change (w : Work) (schema : String) (f : Database → Database) : Work :=
  { w with catalog := w.catalog.update schema fun d =>
    let d' := f d
    { d' with revision := d.revision + 1 } }

/-- 表を、その名前の表の場所に置く。 -/
def putTable (w : Work) (schema : String) (t : Table) : Work := w.change schema (·.putTable t)

/-- スキーマのデータベースが持てるページの最大。 -/
def pageLimit (w : Work) (schema : String) : Nat :=
  ((w.pageLimits.find? (sameName ·.1 schema)).map (·.2)).getD defaultPageLimit

/-- データベースのファイルを、持っているものまで大きくする。上限を超えれば失敗する。 -/
def settlePages (w : Work) (schema : String) : Except SqlError Work :=
  if (w.database schema).fits (w.pageLimit schema) then .ok (w.change schema Database.grown)
  else .error .full

end Work

/-- 行の値への変更: 列の値を置く。 -/
def setValue (vs : Array Value) (i : Nat) (v : Value) : Array Value :=
  if i < vs.size then vs.set! i v else vs

/-- 式がどの深さででも指す列の名前。 -/
def exprNames : Nat → Expr → List String
  | 0, _ => []
  | f + 1, e =>
    match e with
    | .column path => (path.getLast?.map (·.text)).toList
    | .unary _ a | .nullTest a _ | .cast a _ | .collate a _ => exprNames f a
    | .binary _ a b => exprNames f a ++ exprNames f b
    | .like _ _ a b c => exprNames f a ++ exprNames f b ++ c.toList.flatMap (exprNames f)
    | .between _ a b c => exprNames f a ++ exprNames f b ++ exprNames f c
    | .inList _ a items => exprNames f a ++ items.flatMap (exprNames f)
    | .inQuery _ a _ | .inTable _ a _ _ => exprNames f a
    | .vector items | .call _ _ items _ _ => items.flatMap (exprNames f)
    | .caseOf s arms o =>
      s.toList.flatMap (exprNames f) ++ arms.flatMap (fun (x, y) => exprNames f x ++ exprNames f y) ++
        o.toList.flatMap (exprNames f)
    | _ => []

/-- 書き込みが満たすべき `CHECK` 制約: 無視するときはなし。 -/
def Work.checksOf (w : Work) (t : Table) : List Check :=
  if w.context.settings.ignoreChecks then [] else t.checks

/-- 名前のもとでの表の行の束縛。 -/
def Table.binding (t : Table) (schema : String) (name : String) : Binding :=
  ⟨name, some schema, t.sourceColumns, !t.withoutRowid, t.name⟩

/-- 源の今の行としての行。 -/
def Row.bound (r : Row) : BoundRow := ⟨r.values, some r.rowid⟩

/-- 表の一つの行の枠。 -/
def Table.frameOf (t : Table) (schema name : String) (r : Row) : Frame :=
  ⟨[t.binding schema name], [r.bound], [], none⟩

/-- `NEW`、`OLD`、`excluded` が差し出す束縛: 表の列で、前に名前をつけてだけ届く。 -/
def Table.pseudoBinding (t : Table) (name : String) : Binding :=
  ⟨name, none, t.sourceColumns.map fun c => { c with hidden := true }, true, t.name⟩

/-- 表の空の行。 -/
def Table.nullRow (t : Table) : BoundRow := ⟨(List.replicate t.columns.size Value.null).toArray, none⟩

/-- トリガーの本体が走る枠: `NEW` と `OLD`。 -/
def Table.triggerFrame (t : Table) (old new : Option BoundRow) : Frame :=
  ⟨[t.pseudoBinding "new", t.pseudoBinding "old"], [new.getD t.nullRow, old.getD t.nullRow], [],
    none⟩

/-- 列の NOT NULL の規則の名前: 自分のもの、または行番号のない表の主キーの列が持つもの。 -/
def Table.notNullRule (t : Table) (i : Nat) : Option Conflict :=
  match t.columns[i]? with
  | some c =>
    match c.notNull with
    | some r => some r
    | none => if t.withoutRowid && c.primaryKey then some .abort else none
  | none => none

/-- 一意性の失敗が与える名前: `t.a, t.b`、または索引が式を持てば索引の名前。 -/
def Index.failureColumns (t : Table) (ix : Index) : String :=
  if ix.parts.any (·.column.isNone) then "index '" ++ ix.name ++ "'"
  else ", ".intercalate (ix.parts.map fun p =>
    t.name ++ "." ++ ((p.column.bind fun c => t.columns[c]?.map (·.name)).getD ""))

/-- 行番号の失敗が与える名前。 -/
def Table.rowidFailure (t : Table) : String :=
  t.name ++ "." ++ ((t.rowidAlias.bind fun i => t.columns[i]?.map (·.name)).getD "rowid")

/-- 厳格な列の型の標準の名前。 -/
def strictType (c : Column) : String := String.ofList (c.type.toList.map Char.toUpper)

/-- 厳格な列が受け取る値、または拒む値の型の名前。 -/
def strictValue (c : Column) (v : Value) : Except String Value :=
  let ty := strictType c
  let v := if ty == "ANY" then v else Value.withAffinity c.affinity v
  let typeWord := match v with
    | .null => "NULL"
    | .integer _ => "INTEGER"
    | .real _ => "REAL"
    | .text _ => "TEXT"
    | .blob _ => "BLOB"
  match v with
  | .null => .ok v
  | _ =>
    let fine := match ty, v with
      | "INT", .integer _ | "INTEGER", .integer _ => true
      | "REAL", .real _ | "REAL", .integer _ => true
      | "TEXT", .text _ => true
      | "BLOB", .blob _ => true
      | "ANY", _ => true
      | _, _ => false
    if fine then
      match ty, v with
      | "REAL", .integer n => .ok (.real (Float.ofInt n))
      | _, _ => .ok v
    else .error typeWord

/-- 行の値に列の親和性を与える。厳格な表では、型の違う最初の値も見つける。 -/
def Table.conform (t : Table) (vs : Array Value) : Array Value × Option SqlError :=
  if !t.strict then
    ((t.columns.toList.zip vs.toList).map (fun (c, v) => Value.withAffinity c.affinity v) |>.toArray,
      none)
  else
    let (out, err) := (t.columns.toList.zip vs.toList).foldl
      (fun (acc : List Value × Option SqlError) (c, v) =>
        match strictValue c v with
        | .ok w => (w :: acc.1, acc.2)
        | .error word =>
          (v :: acc.1, acc.2.orElse fun _ => some (.datatype word (strictType c) t.name c.name)))
      ([], none)
    (out.reverse.toArray, err)

/-- 与えた値が作る行番号: 整数、または整数として読める値。 -/
def rowidOf (v : Value) : Except SqlError Int :=
  match Value.withAffinity .integer v with
  | .integer n => .ok n
  | _ => .error (.plain 20)

/-- 行をその場所に置いた表: 行は行番号の順、行番号のない表では主キーの順。 -/
def Table.insertRow (t : Table) (r : Row) : Table :=
  let rows := t.rows.toList.filter (·.rowid != r.rowid)
  let before : Row → Bool :=
    if t.withoutRowid then
      match t.primaryIndex with
      | some pk =>
        let colls := pk.parts.map (·.collation)
        let key := Index.keyFor t pk r
        fun x => compareRows colls (Index.keyFor t pk x) key == .lt
      | none => fun x => x.rowid < r.rowid
    else fun x => x.rowid < r.rowid
  let (front, back) := rows.span before
  { t with rows := (front ++ r :: back).toArray }

/-- 番号の行を除いた表。 -/
def Table.removeRow (t : Table) (rowid : Int) : Table :=
  { t with rows := t.rows.filter (·.rowid != rowid) }

/-- 番号の行。 -/
def Table.row? (t : Table) (rowid : Int) : Option Row := t.rows.find? (·.rowid == rowid)

/-- 表の行のうち、ある行以外で、索引でのキーがその行のキーと等しいもの。 -/
def Table.keyConflicts (t : Table) (ix : Index) (r : Row) : List Row :=
  if !(Index.holds t ix r) then []
  else
    let key := ix.parts.map (KeyPart.valueFor t r)
    if key.any (·.isNull) then []
    else
      let colls := ix.parts.map (·.collation)
      t.rows.toList.filter fun x =>
        x.rowid != r.rowid && Index.holds t ix x &&
          compareRows colls (ix.parts.map (KeyPart.valueFor t x)) key == .eq

/-- 衝突を確かめる順の一意な索引: `REPLACE` で解決しないものが先。 -/
def Table.uniqueOrder (t : Table) (conflict : Option Conflict) : List Index :=
  let uniques := t.indexes.filter (·.unique)
  let isReplace (ix : Index) : Bool := conflict.getD ix.conflict == .replace
  uniques.filter (!isReplace ·) ++ uniques.filter isReplace

/-- 一意性の衝突を確かめる相手: 行番号か、名前の索引。 -/
inductive KeyTarget where
  | rowid
  | index (name : String)
  deriving DecidableEq, Inhabited

/-- `ON CONFLICT` 句と、それが当たるキー。どれにもならなし。 -/
structure ResolvedUpsert where
  target : Option KeyTarget
  update : Option (List Assignment × Option Expr)
  deriving Inhabited

/-- キーの衝突に当たる句: 目標がそのキーである最初のもの、なければ目標のない最初のもの。 -/
def upsertFor (ups : List ResolvedUpsert) (k : KeyTarget) : Option ResolvedUpsert :=
  (ups.find? (·.target == some k)).orElse fun _ => ups.find? (·.target.isNone)

/-- `ON CONFLICT` の目標が名指すキー: 行番号の列、またはちょうどその列を持つ一意な索引。 -/
def Table.upsertTarget (t : Table) (cols : List IndexedColumn) : Option KeyTarget :=
  let names := cols.filterMap fun c => match c.e with
    | .column path => path.getLast?.map (·.text)
    | .collate (.column path) _ => path.getLast?.map (·.text)
    | _ => none
  if names.length != cols.length then none
  else
    let places := names.filterMap t.columnIndex?
    if places.length != names.length then none
    else if places.length == 1 && t.rowidAlias == places.head? then some .rowid
    else
      (t.indexes.find? fun ix => ix.unique && ix.parts.length == places.length &&
        ix.parts.all (fun p => p.column.any places.contains) &&
        places.all (fun c => ix.parts.any (·.column == some c))).map (KeyTarget.index ·.name)

/-- 衝突で行に起こること。 -/
inductive Resolution where
  | fail (e : SqlError)
  | skip
  | replace
  | upsert (u : ResolvedUpsert) (existing : Row)

/-- 行の、自分以外との最初の一意性の衝突と、その解決のしかた。 -/
def Table.firstConflict (t : Table) (conflict : Option Conflict) (ups : List ResolvedUpsert)
    (checkRowid : Bool) (indexes : List Index) (r : Row) : Option Resolution :=
  let decide (k : KeyTarget) (own : Conflict) (existing : Row) (failure : SqlError) : Resolution :=
    match upsertFor ups k with
    | some u =>
      if conflict.isSome && conflict != some .abort then
        match conflict.getD own with
        | .replace => .replace
        | .ignore => .skip
        | _ => .fail failure
      else .upsert u existing
    | none =>
      match conflict.getD own with
      | .replace => .replace
      | .ignore => .skip
      | _ => .fail failure
  let byRowid : Option Resolution :=
    if checkRowid && !t.withoutRowid then
      match t.rows.find? (·.rowid == r.rowid) with
      | some existing => some (decide .rowid t.rowidConflict existing (.unique true t.rowidFailure))
      | none => none
    else none
  byRowid.orElse fun _ =>
    indexes.findSome? fun ix =>
      match t.keyConflicts ix r with
      | existing :: _ =>
        some (decide (.index ix.name) ix.conflict existing (.unique ix.primary (ix.failureColumns t)))
      | [] => none

/-- `REPLACE` のもとで行が衝突する行を除く: その番号の行と、そのキーを持つ行。 -/
def Table.clearConflicts (t : Table) (checkRowid : Bool) (indexes : List Index) (r : Row) :
    Table × Nat :=
  let t1 := if checkRowid && !t.withoutRowid then t.removeRow r.rowid else t
  let gone := indexes.flatMap fun ix => (t1.keyConflicts ix r).map (·.rowid)
  let removed := (if checkRowid && (t.row? r.rowid).isSome && !t.withoutRowid then 1 else 0) +
    gone.eraseDups.length
  ({ t1 with rows := t1.rows.filter fun x => !gone.contains x.rowid || x.rowid == r.rowid }, removed)

/-- 表のある時とある変更のトリガー。新しいものが先頭。 -/
def Catalog.triggersFor (c : Catalog) (schema : String) (table : String) (time : TriggerTime)
    (isEvent : TriggerEvent → Bool) : List (String × Trigger) :=
  let mine := c.schemas.flatMap fun (sn, d) =>
    (d.triggers.filter fun tr =>
      sameName tr.table table && tr.time == time && isEvent tr.event &&
        (sameName sn schema || sameName sn "temp")).map (sn, ·)
  mine.mergeSort fun a b => a.2.seq ≥ b.2.seq

/-- トリガーの変更が挿入かどうか。 -/
def TriggerEvent.isInsert : TriggerEvent → Bool
  | .insert => true
  | _ => false

/-- トリガーの変更が削除かどうか。 -/
def TriggerEvent.isDelete : TriggerEvent → Bool
  | .delete => true
  | _ => false

/-- `REPLACE` が表から除く行がその `DELETE` トリガーを起こすかどうか: `recursive_triggers`
のもとでだけ。 -/
def Work.replaceFires (w : Work) (schema : String) (t : Table) : Bool :=
  w.context.settings.recursiveTriggers &&
    (!(w.catalog.triggersFor schema t.name .before TriggerEvent.isDelete).isEmpty ||
      !(w.catalog.triggersFor schema t.name .after TriggerEvent.isDelete).isEmpty)

/-- トリガーの変更が、変えた列のどれかの更新かどうか。 -/
def TriggerEvent.isUpdateOf (t : Table) (changed : List Nat) : TriggerEvent → Bool
  | .update cols => cols.isEmpty || cols.any fun c => (t.columnIndex? c.text).any changed.contains
  | _ => false

/-- トリガーの変更が、名前の中の列の更新かどうか。 -/
def TriggerEvent.isUpdateNaming (names : List String) : TriggerEvent → Bool
  | .update cols => cols.isEmpty || cols.any fun c => names.any (sameName · c.text)
  | _ => false

/-- 行を書く文の書き先: 表、またはその `INSTEAD OF` トリガーが変更を受けるビュー
(結果の列を持ち行のない表として見る)。 -/
inductive WriteTarget where
  | table (schema : String) (t : Table)
  | view (schema : String) (v : View) (shape : Table)

namespace WriteTarget

/-- 書き先のスキーマ。 -/
def schema : WriteTarget → String
  | .table sn _ | .view sn _ _ => sn

/-- 書き先を見る表。 -/
def shape : WriteTarget → Table
  | .table _ t | .view _ _ t => t

end WriteTarget

/-- 結果の列を持ち行のない、ビューの名前の表: ビューのトリガーの `NEW` と `OLD` が見せるもの。 -/
def viewShape (name : String) (cols : Array SourceColumn) : Table :=
  let col (c : SourceColumn) : Column :=
    ⟨c.name, "", c.affinity.getD .blob, c.collation.getD .binary, none, none, none, false, none⟩
  ⟨name, cols.map col, none, false, false, false, .abort, [], [], [], #[], "", 0⟩

/-- 行を書く文の書き先。ビューは、その変更の `INSTEAD OF` トリガーを持つときだけ書き先になる。
その列を先に見る。 -/
def writeTarget (f : Nat) (w : Work) (fixed : Option String) (schema : Option Name) (name : Name)
    (isEvent : TriggerEvent → Bool) : Except SqlError WriteTarget := do
  let schemaName := (schema.map (·.text)).orElse fun _ => fixed
  match w.catalog.relation? schemaName name.text with
  | none => throw (.logic ("no such table: " ++ ((schemaName.map (· ++ ".")).getD "") ++ name.text))
  | some (.view sn v) =>
    let cols ← queryColumns f (w.env.detached (some sn)) v.query
    if !v.columns.isEmpty && v.columns.length != cols.size then
      throw (.logic ("expected " ++ toString v.columns.length ++ " columns for '" ++ v.name ++
        "' but got " ++ toString cols.size))
    if (w.catalog.triggersFor sn v.name .insteadOf isEvent).isEmpty then
      throw (.logic ("cannot modify " ++ v.name ++ " because it is a view"))
    return .view sn v (viewShape v.name (renameColumns cols v.columns))
  | some (.master _) => throw (.logic ("table " ++ name.text ++ " may not be modified"))
  | some (.table sn t) => return .table sn t

/-- ビューを通した変更が覆うビューの行: 条件が成り立つもの。それぞれに一からの位置をつけ、
どのトリガーが走るより前に見つける。 -/
def viewRows (f : Nat) (env : Env) (sn : String) (v : View) (shape : Table) (filter : Option Expr) :
    Except SqlError (List BoundRow) := do
  let r ← evalQuery f (env.detached (some sn)) v.query none
  let rows := r.rows.zipIdx.map fun (vals, i) => (⟨vals, some ((i : Int) + 1)⟩ : BoundRow)
  rows.filterM fun row => do
    match filter with
    | some c =>
      let frame : Frame := ⟨[shape.binding sn shape.name], [row], [], none⟩
      return (← eval f (env.push frame) c).truth? == some true
    | none => return true

/-- 文で表の名前を見せるテキスト: スキーマを書いたときはそれをつけて。 -/
def writtenName (schema : Option Name) (name : Name) : String :=
  ((schema.map (·.text ++ ".")).getD "") ++ name.text

/-- 表の枠で `RETURNING` 句の結果の列を確かめる。 -/
def checkReturning (f : Nat) (env : Env) (t : Table) (schema label : String)
    (returning : List ResultColumn) : Except SqlError (List OutColumn) := do
  let b := t.binding schema label
  let frame : Frame := ⟨[b], [], [], none⟩
  let outs ← expandColumns [b] (frame :: env.frames) returning
  let exprs := outs.filterMap fun o => match o with
    | .expr e _ => some e
    | _ => none
  checkList f (env.push frame) false exprs
  return outs

/-- `RETURNING` 句が与える列。 -/
def returningColumns (t : Table) (schema label : String) (outs : List OutColumn) :
    Array SourceColumn :=
  let frame : Frame := ⟨[t.binding schema label], [], [], none⟩
  (outs.map fun o => match o with
    | .slot _ _ info => info
    | .expr e name => (⟨name, exprAffinity [frame] 64 e, exprCollation [frame] 64 e, false⟩ : SourceColumn)).toArray

/-- 行に対する `RETURNING` 句の値。 -/
def returningRow (f : Nat) (env : Env) (t : Table) (schema label : String) (outs : List OutColumn)
    (r : Row) : Except SqlError (Array Value) := do
  let env' := env.push (t.frameOf schema label r)
  let vals ← outs.mapM fun o => match o with
    | .slot _ c _ => pure (r.values.getD c .null)
    | .expr e _ => eval f env' e
  return vals.toArray

/-- 行のない文の結果。 -/
def QueryResult.empty : QueryResult := ⟨#[], []⟩

/-- `UPDATE` か upsert の代入を枠の中で評価する: 目標の列とその値のそれぞれ。
行の値はその項目を順に代入する。 -/
def assignValues (f : Nat) (env : Env) (targets : List (List (Option Nat) × Expr)) :
    Except SqlError (List (Option Nat × Value)) := do
  let pieces ← targets.mapM fun (cols, e) => do
    match cols with
    | [c] => return [(c, ← eval f env e)]
    | _ =>
      match e with
      | .vector items =>
        if items.length != cols.length then throw (.logic "row value misused")
        let vs ← items.mapM (eval f env)
        return cols.zip vs
      | .scalar q => do
        let r ← evalQuery f env q (some 1)
        let row := r.rows.headD (List.replicate cols.length Value.null).toArray
        return cols.zipIdx.map fun (c, i) => (c, row.getD i .null)
      | _ => throw (.logic "row value misused")
  return pieces.flatten

/-- 代入の目標の列: 列の位置、行番号ならなし。知らない名前は失敗する。 -/
def assignmentTargets (t : Table) (sets : List Assignment) :
    Except SqlError (List (List (Option Nat) × Expr)) :=
  sets.mapM fun a => do
    let cols ← a.columns.mapM fun n =>
      match t.columnIndex? n.text with
      | some i => pure (some i)
      | none =>
        if isRowidName n.text && !t.withoutRowid then pure none
        else throw (.logic ("no such column: " ++ n.text))
    return (cols, a.value)

/-- 文が表の行にする変更の種類。外部キーから見て: 挿入 (と、文が二行以上を書きうるかどうか)、
いくつかの列の更新 (と、行番号の更新かどうか)、または削除。 -/
inductive RowChange where
  | insert (multiWrite : Bool)
  | update (changed : List Nat) (rowidChanged : Bool)
  | delete

/-- 更新が、その表の外部キーの列を変えるかどうか。 -/
def ForeignKey.childChanged (fk : ForeignKey) (t : Table) (changed : List Nat) (rowidChanged : Bool) :
    Bool :=
  (fk.childColumns t).any fun c => changed.contains c || (rowidChanged && t.rowidAlias == some c)

/-- 更新が、外部キーが親の中で指す列を変えるかどうか: 名指した列、名指していなければ主キーの列。 -/
def ForeignKey.parentChanged (fk : ForeignKey) (parent : Table) (changed : List Nat)
    (rowidChanged : Bool) : Bool :=
  fk.parentColumns.any (fun k =>
    parent.columns.toList.zipIdx.any fun (col, i) =>
      (changed.contains i || (rowidChanged && parent.rowidAlias == some i)) &&
        (if fk.parentColumns.isEmpty then col.primaryKey else sameName col.name k)) ||
  (fk.parentColumns.isEmpty && parent.columns.toList.zipIdx.any fun (col, i) =>
    (changed.contains i || (rowidChanged && parent.rowidAlias == some i)) && col.primaryKey)

namespace Work

/-- 表への変更が、表の外部キー (`child`) か、それを指す外部キーにかかわるかどうか。 -/
def keyConcerned (t : Table) (change : RowChange) (child : Bool) (fk : ForeignKey) : Bool :=
  match change with
  | .update changed rowidChanged =>
    if child then sameName fk.parent t.name || fk.childChanged t changed rowidChanged
    else fk.parentChanged t changed rowidChanged
  | _ => true

/-- 文の準備がするように、表への変更がかかわる外部キーを守れることを確かめる:
表のキーそれぞれの親の表があり、名指したキーを持つこと。表を指すキーについては表自身が同じく。
トリガーの外で一行を書く挿入は、表を指してすぐに確かめるキーを除く。 -/
def checkKeys (w : Work) (schema : String) (t : Table) (change : RowChange) : Except SqlError Unit := do
  if !w.keys.on then return
  let d := w.database schema
  let refs := d.referencesTo t.name
  if let .update .. := change then
    if !(t.foreignKeys.any (keyConcerned t change true) || refs.any (keyConcerned t change false ·.2)) then
      return
  for fk in t.foreignKeys.reverse do
    if keyConcerned t change true fk then
      match d.findTable fk.parent with
      | none => throw (.logic ("no such table: " ++ schema ++ "." ++ fk.parent))
      | some p => if (fk.parentKey p t).isNone then throw (keyMismatch t.name fk.parent)
  for (child, fk) in refs do
    if keyConcerned t change false fk then
      let skip := match change with
        | .insert multi => !fk.deferred && !w.keys.deferAll && w.running.isEmpty && !multi
        | _ => false
      if !skip && (fk.parentKey t child).isNone then throw (keyMismatch child.name fk.parent)

/-- 行がもたらす、表自身の外部キーの違反を数える: 書いたとき (`adding`) は親のないキーごとに一つ、
除いたときはそうしたキーごとに、その種類のものを数えている間は一つ減らす。`self` は書いた行で、
自分の親でありうる。 -/
def childKeys (w : Work) (schema : String) (t : Table) (vals : Array Value) (adding : Bool)
    (self : Option Row) (only : ForeignKey → Bool) : Work :=
  t.foreignKeys.reverse.foldl (fun w fk =>
    if !only fk || fk.hasNull t vals then w
    else if !adding && w.keys.none fk.deferred then w
    else
      match w.table? schema fk.parent with
      | none => w
      | some p =>
        match fk.parentKey p t with
        | none => w
        | some key =>
          if key.found p vals (if sameName p.name t.name then self else none) then w
          else { w with keys := w.keys.add fk.deferred (if adding then 1 else -1) }) w

/-- 行が親としてもたらす、表を指す外部キーの違反を数える: 除いたときはそれを名指す (自分以外の)
行ごとに一つ、書いたときはそうした行ごとに、キーの種類のものを数えている間は一つ減らす。 -/
def parentKeys (w : Work) (schema : String) (t : Table) (r : Row) (removing : Bool)
    (only : ForeignKey → Bool) : Work :=
  ((w.database schema).referencesTo t.name).foldl (fun w (child, fk) =>
    if !only fk then w
    else if !removing && w.keys.none fk.deferred then w
    else
      let parent := (w.table? schema t.name).getD t
      let child := (w.table? schema child.name).getD child
      match fk.parentKey parent child with
      | none => w
      | some key =>
        let n := (key.referring parent child r (removing && sameName child.name t.name)).length
        if n == 0 then w
        else { w with keys := w.keys.add fk.deferred (if removing then (n : Int) else -(n : Int)) }) w

end Work

/-- `REPLACE` のもとで行の衝突が除く行: その番号の行、それからそのキーを持つ行。 -/
def Table.conflictRows (t : Table) (checkRowid : Bool) (indexes : List Index) (r : Row) : List Row :=
  let byRowid := if checkRowid && !t.withoutRowid then (t.row? r.rowid).toList else []
  let t1 := if checkRowid && !t.withoutRowid then t.removeRow r.rowid else t
  let byKey := indexes.flatMap fun ix => t1.keyConflicts ix r
  byRowid ++ byKey.foldl (fun acc x => if acc.any (·.rowid == x.rowid) then acc else acc ++ [x]) []

/-- `AUTOINCREMENT` の表が与えた最も大きい行番号を `sqlite_sequence` に記録する。 -/
def recordSequence (w : Work) (schema name : String) (rowid : Int) : Work :=
  match w.table? schema "sqlite_sequence" with
  | none => w
  | some st =>
    let mine (r : Row) : Bool := match r.values.getD 0 .null with
      | .text n => sameName n name
      | _ => false
    match st.rows.find? mine with
    | some r =>
      let top := match r.values.getD 1 .null with
        | .integer s => max s rowid
        | _ => rowid
      w.putTable schema (st.insertRow { r with values := setValue r.values 1 (.integer top) })
    | none =>
      w.putTable schema (st.insertRow ⟨st.maxRowid + 1, #[.text name, .integer rowid]⟩)

/-- 外部キーから見て `INSERT` が二行以上を書きうるかどうか: 行が `VALUES`
の一行以外の問い合わせから来る、行を置き換えうる、またはトリガーが見張っている。 -/
def Work.insertMultiWrite (w : Work) (schema : String) (t : Table) (conflict : Option Conflict)
    (source : InsertSource) (upserts : List Upsert) : Bool :=
  let oneRow := match source with
    | .defaults => true
    | .query (.mk [] (.values [_]) [] [] none) => true
    | _ => false
  !oneRow || !upserts.isEmpty || conflict == some .replace ||
    (conflict.isNone && (t.rowidConflict == .replace || t.indexes.any (·.conflict == .replace))) ||
    !(w.catalog.triggersFor schema t.name .before TriggerEvent.isInsert).isEmpty ||
    !(w.catalog.triggersFor schema t.name .after TriggerEvent.isInsert).isEmpty

mutual

/-- 変更に対して表のトリガーを走らせる。どれかが `RAISE(IGNORE)` で行をそのままにするよう求めたかを
伝える。変更に与えた衝突の規則があれば、本体の文の規則より優先する。 -/
def fireTriggers : Nat → Work → String → Table → TriggerTime → (TriggerEvent → Bool) →
    Option Conflict → Option BoundRow → Option BoundRow → Except SqlError (Work × Bool)
  | 0, _, _, _, _, _, _, _, _ => .error tooDeep
  | f + 1, w, schema, t, time, isEvent, orconf, old, new => do
    let triggers := (w.catalog.triggersFor schema t.name time isEvent).filter fun (_, tr) =>
      w.context.settings.recursiveTriggers || !w.running.any (sameName · tr.name)
    triggers.foldlM (fun (acc : Work × Bool) (sn, tr) => do
      let (w, ignored) := acc
      if ignored then return acc
      if w.running.length ≥ 1000 then throw (.logic "too many levels of trigger recursion")
      let frame := t.triggerFrame old new
      let inner : Work := { w with running := tr.name :: w.running }
      let env : Env := { inner.env with frames := [frame] }
      let go ← match tr.condition with
        | some c => do pure ((← eval f env c).truth? == some true)
        | none => pure true
      if !go then return (w, false)
      let fixed := if sameName sn "temp" then none else some sn
      let saved := w.context
      match runBody f inner [frame] fixed orconf tr.body with
      | .ok w' =>
        let context : CallContext :=
          { w'.context with lastInsertRowid := saved.lastInsertRowid, changes := saved.changes }
        return ({ w' with running := w.running, context }, false)
      | .error e =>
        if e.code == ignoreSignal.code && e.message == ignoreSignal.message then return (w, true)
        else throw e) (w, false)

/-- トリガーの本体の文を順に走らせる。 -/
def runBody : Nat → Work → List Frame → Option String → Option Conflict → List Statement →
    Except SqlError Work
  | 0, _, _, _, _, _ => .error tooDeep
  | _, w, _, _, _, [] => .ok w
  | f + 1, w, frames, fixed, orconf, s :: rest => do
    let (w, _) ← runRowStatement f w frames fixed orconf s
    runBody f w frames fixed orconf rest

/-- 行を読むか書く文を、外からの枠の中で、修飾のない表をスキーマに固定して走らせる。
外からの衝突の規則は文自身のものより優先する。`RETURNING` か問い合わせが与えるものを与える。 -/
def runRowStatement : Nat → Work → List Frame → Option String → Option Conflict → Statement →
    Except SqlError (Work × QueryResult)
  | 0, _, _, _, _, _ => .error tooDeep
  | f + 1, w, frames, fixed, orconf, s =>
    match s with
    | .query q => do
      let env := { w.env with frames, fixedSchema := fixed }
      let _ ← queryColumns f env q
      let r ← evalQuery f env q none
      return (w, r)
    | .insert common conflict schema table label columns source upserts returning =>
      insertStatement f w frames fixed common (orconf.orElse fun _ => conflict) schema table label
        columns source upserts returning
    | .update common conflict schema table label sets _ filter returning =>
      updateStatement f w frames fixed common (orconf.orElse fun _ => conflict) schema table label
        sets filter returning
    | .delete common schema table label filter returning =>
      deleteStatement f w frames fixed common schema table label filter returning
    | _ => .ok (w, QueryResult.empty)

/-- `INSERT` を走らせる。 -/
def insertStatement : Nat → Work → List Frame → Option String → List CommonTable →
    Option Conflict → Option Name → Name → Option Name → Option (List Name) → InsertSource →
    List Upsert → List ResultColumn → Except SqlError (Work × QueryResult)
  | 0, _, _, _, _, _, _, _, _, _, _, _, _ => .error tooDeep
  | f + 1, w, frames, fixed, common, conflict, schema, table, label, columns, source, upserts,
      returning => do
    let target ← writeTarget f w fixed schema table TriggerEvent.isInsert
    let sn := target.schema
    let t := target.shape
    let defs := common.map CommonTable.toDef
    let env : Env := { w.env with frames, common := defs, fixedSchema := fixed }
    let targets ← match columns with
      | none => pure (t.columns.toList.zipIdx.filterMap fun (c, i) =>
          if c.generated.isSome then none else some (some i))
      | some names => names.mapM fun n =>
        match t.columnIndex? n.text with
        | some i =>
          if (t.columns[i]?.bind (·.generated)).isSome then
            throw (.logic ("cannot INSERT into generated column \"" ++ n.text ++ "\""))
          else pure (some i)
        | none =>
          if isRowidName n.text && !t.withoutRowid then pure none
          else throw (.logic ("table " ++ writtenName schema table ++ " has no column named " ++ n.text))
    let keyCheck : Except SqlError Unit := match target with
      | .table .. => w.checkKeys sn t (.insert (w.insertMultiWrite sn t conflict source upserts))
      | .view .. => pure ()
    let rows ← match source with
      | .defaults => do
        keyCheck
        pure [[]]
      | .query q => do
        let cols ← queryColumns f env q
        let count := cols.size
        if columns.isNone && count != targets.length then
          throw (.logic ("table " ++ writtenName schema table ++ " has " ++ toString targets.length ++
            " columns but " ++ toString count ++ " values were supplied"))
        if columns.isSome && count != targets.length then
          throw (.logic (toString count ++ " values for " ++ toString targets.length ++ " columns"))
        keyCheck
        let r ← evalQuery f env q none
        pure (r.rows.map (·.toList))
    let targets := match source with
      | .defaults => []
      | _ => targets
    let aliasName := (label.map (·.text)).getD t.name
    if let .view _ _ _ := target then
      if !upserts.isEmpty then throw (.logic "cannot UPSERT a view")
      let outs ← checkReturning f env t sn aliasName returning
      let (w, out) ← rows.foldlM (fun (acc : Work × List (Array Value)) vals => do
        let (w, out) := acc
        let given := targets.zip vals
        let values := given.foldl (fun vs (tgt, v) => match tgt with
          | some i => setValue vs i v
          | none => vs) t.nullRow.values
        let rowid : Option Int := (given.find? (·.1.isNone)).bind fun (_, v) => match v with
          | .integer n => some n
          | _ => none
        let (w, ignored) ← fireTriggers f w sn t .insteadOf TriggerEvent.isInsert conflict none
          (some ⟨values, rowid⟩)
        if ignored || returning.isEmpty then return (w, out)
        let line ← returningRow f { env with catalog := w.catalog } t sn aliasName outs
          ⟨rowid.getD 0, values⟩
        return (w, out ++ [line])) (w, [])
      return (w, ⟨returningColumns t sn aliasName outs, out⟩)
    let resolved ← upserts.mapM fun u => do
      match u.target with
      | none => pure (ResolvedUpsert.mk none u.update)
      | some (cols, _) =>
        match t.upsertTarget cols with
        | some k => pure (ResolvedUpsert.mk (some k) u.update)
        | none => throw (.logic "ON CONFLICT clause does not match any PRIMARY KEY or UNIQUE constraint")
    let outs ← checkReturning f env t sn aliasName returning
    let (w, out) ← rows.foldlM (fun (acc : Work × List (Array Value)) vals => do
      let (w, out) := acc
      let (w, made) ← insertOne f w sn t.name conflict resolved targets vals
      match made with
      | some r =>
        let t' := (w.table? sn t.name).getD t
        let line ← returningRow f { env with catalog := w.catalog } t' sn aliasName outs r
        return (w, out ++ (if returning.isEmpty then [] else [line]))
      | none => return (w, out)) (w, [])
    let w ← w.settlePages sn
    return (w, ⟨returningColumns t sn aliasName outs, out⟩)

/-- 目標の列の値と、残りの既定値からなる行を一つ挿入する。挿入か更新した行を与え、
飛ばしたならなし。 -/
def insertOne : Nat → Work → String → String → Option Conflict → List ResolvedUpsert →
    List (Option Nat) → List Value → Except SqlError (Work × Option Row)
  | 0, _, _, _, _, _, _, _ => .error tooDeep
  | f + 1, w, schema, name, conflict, ups, targets, vals => do
    let t ← match w.table? schema name with
      | some t => pure t
      | none => throw (.logic ("no such table: " ++ name))
    let env := w.env
    let base ← t.columns.toList.mapM fun c =>
      match c.defaultValue with
      | some d => eval f env d
      | none => pure Value.null
    let given := targets.zip vals
    let values := given.foldl (fun vs (tgt, v) => match tgt with
      | some i => setValue vs i v
      | none => vs) base.toArray
    let explicit : Option Value :=
      match given.find? (·.1.isNone) with
      | some (_, v) => some v
      | none =>
        match t.rowidAlias with
        | some i => if given.any (·.1 == some i) then values[i]? else none
        | none => none
    let sequenceTop : Int :=
      if t.autoincrement then
        match w.table? schema "sqlite_sequence" with
        | some st =>
          (st.rows.toList.filterMap fun (r : Row) =>
            match r.values.getD 0 .null, r.values.getD 1 .null with
            | .text n, .integer s => if sameName n t.name then some s else none
            | _, _ => none).foldl max 0
        | none => 0
      else 0
    let rowid ← match explicit with
      | some v =>
        if v.isNull then pure none else do
          let n ← rowidOf v
          pure (some n)
      | none => pure none
    let rowid ← match rowid with
      | some n => pure n
      | none =>
        let top := max t.maxRowid sequenceTop
        if top ≥ greatestInt then throw SqlError.full else pure (top + 1)
    let checkRowid := explicit.any (!·.isNull)
    let values := match t.rowidAlias with
      | some i => setValue values i (.integer rowid)
      | none => values
    let (values, typeError) := t.conform values
    let row : Row := ⟨rowid, values⟩
    let (w, ignored) ←
      fireTriggers f w schema t .before TriggerEvent.isInsert conflict none (some row.bound)
    if ignored then return (w, none)
    let t := (w.table? schema name).getD t
    -- NOT NULL
    let nullFix ← t.columns.toList.zipIdx.foldlM (fun (acc : Option (Array Value)) (c, i) => do
      match acc with
      | none => return none
      | some vs =>
        if !(vs.getD i .null).isNull then return some vs
        match t.notNullRule i with
        | none => return some vs
        | some rule =>
          match conflict.getD rule with
          | .ignore => return none
          | .replace =>
            match c.defaultValue with
            | some d =>
              let dv ← eval f env d
              if dv.isNull then throw (.notNull t.name c.name)
              return some (setValue vs i (Value.withAffinity c.affinity dv))
            | none => throw (.notNull t.name c.name)
          | _ => throw (.notNull t.name c.name)) (some values)
    match nullFix with
    | none => return (w, none)
    | some values =>
    let row : Row := ⟨rowid, values⟩
    if !(w.checksOf t).isEmpty then
      if let some e := typeError then throw e
    let failedCheck ← (w.checksOf t).findM? fun ck => do
      let v ← eval f (env.push (t.frameOf schema t.name row)) ck.e
      return v.truth? == some false
    if let some ck := failedCheck then
      if conflict == some .ignore then return (w, none)
      throw (.check ck.name)
    match t.firstConflict conflict ups checkRowid (t.uniqueOrder conflict) row with
    | some (.fail e) => throw e
    | some .skip => return (w, none)
    | some (.upsert u existing) =>
      match u.update with
      | none => return (w, none)
      | some (sets, cond) =>
        let frame : Frame := ⟨[t.binding schema t.name, t.pseudoBinding "excluded"],
          [existing.bound, row.bound], [], none⟩
        let env' := env.push frame
        let go ← match cond with
          | some c => do pure ((← eval f env' c).truth? == some true)
          | none => pure true
        if !go then return (w, none)
        let targets ← assignmentTargets t sets
        let assigned ← assignValues f env' targets
        updateOne f w schema t.name (some .abort) existing assigned
    | _ =>
      let fires := w.replaceFires schema t
      let (w, t) ← if w.keys.on || fires then do
          let victims := t.conflictRows checkRowid (t.uniqueOrder conflict) row
          let w ← victims.foldlM (fun w r =>
            if fires then do
              let (w, _) ← deleteOne f w schema name r true
              pure w
            else removeRow f w schema name r false) w
          let t := (w.table? schema name).getD t
          let all : ForeignKey → Bool := fun _ => true
          let w := if w.keys.on then
              (w.childKeys schema t row.values true (some row) all).parentKeys schema t row false all
            else w
          pure (w, (w.table? schema name).getD t)
        else pure (w, t)
      let (t, _) := t.clearConflicts checkRowid (t.uniqueOrder conflict) row
      if (w.checksOf t).isEmpty then
        if let some e := typeError then throw e
      let t := t.insertRow row
      let w := w.putTable schema t
      let w := if t.autoincrement then recordSequence w schema t.name rowid else w
      let w := { w with context := { w.context with
        lastInsertRowid := if t.withoutRowid then w.context.lastInsertRowid else rowid,
        changes := w.context.changes + 1, totalChanges := w.context.totalChanges + 1 } }
      let (w, _) ←
        fireTriggers f w schema t .after TriggerEvent.isInsert conflict none (some row.bound)
      return (w, some row)

/-- 代入した値で行を一つ変え、変更がかかわる制約を確かめる。変えた行を与え、
そのままにしたならなし。 -/
def updateOne : Nat → Work → String → String → Option Conflict → Row →
    List (Option Nat × Value) → Except SqlError (Work × Option Row)
  | 0, _, _, _, _, _, _ => .error tooDeep
  | f + 1, w, schema, name, conflict, old, assigned => do
    let t ← match w.table? schema name with
      | some t => pure t
      | none => throw (.logic ("no such table: " ++ name))
    let env := w.env
    let changed := assigned.filterMap (·.1)
    let rowidValue := (assigned.find? (·.1.isNone)).map (·.2)
    let rowidValue := rowidValue.orElse fun _ =>
      t.rowidAlias.bind fun i => (assigned.find? (·.1 == some i)).map (·.2)
    let newRowid ← match rowidValue with
      | some v => if v.isNull && t.rowidAlias.isNone then throw (.plain 20) else
          if v.isNull then pure (max t.maxRowid 0 + 1) else rowidOf v
      | none => pure old.rowid
    let values := assigned.foldl (fun vs (tgt, v) => match tgt with
      | some i => setValue vs i v
      | none => vs) old.values
    let values := match t.rowidAlias with
      | some i => setValue values i (.integer newRowid)
      | none => values
    let (conformed, typeError) := t.conform values
    let values := (values.toList.zip conformed.toList).zipIdx.map (fun ((v, c), i) =>
      if changed.contains i then c else v) |>.toArray
    let typeError := if changed.isEmpty then none else typeError
    let row : Row := ⟨newRowid, values⟩
    let isUpdate := TriggerEvent.isUpdateOf t changed
    let (w, ignored) ←
      fireTriggers f w schema t .before isUpdate conflict (some old.bound) (some row.bound)
    if ignored then return (w, none)
    let t := (w.table? schema name).getD t
    let nullFix ← t.columns.toList.zipIdx.foldlM (fun (acc : Option (Array Value)) (c, i) => do
      match acc with
      | none => return none
      | some vs =>
        if !changed.contains i || !(vs.getD i .null).isNull then return some vs
        match t.notNullRule i with
        | none => return some vs
        | some rule =>
          match conflict.getD rule with
          | .ignore => return none
          | .replace =>
            match c.defaultValue with
            | some d =>
              let dv ← eval f env d
              if dv.isNull then throw (.notNull t.name c.name)
              return some (setValue vs i (Value.withAffinity c.affinity dv))
            | none => throw (.notNull t.name c.name)
          | _ => throw (.notNull t.name c.name)) (some values)
    match nullFix with
    | none => return (w, none)
    | some values =>
    let row : Row := ⟨newRowid, values⟩
    let changedNames := changed.filterMap fun i => t.columns[i]?.map (·.name)
    let rowidChanged := newRowid != old.rowid
    let touched (e : Expr) : Bool :=
      rowidChanged || (exprNames 64 e).any fun n => changedNames.any (sameName · n)
    if !(w.checksOf t).isEmpty then
      if let some e := typeError then throw e
    let failedCheck ← ((w.checksOf t).filter (touched ·.e)).findM? fun ck => do
      let v ← eval f (env.push (t.frameOf schema t.name row)) ck.e
      return v.truth? == some false
    if let some ck := failedCheck then
      if conflict == some .ignore then return (w, none)
      throw (.check ck.name)
    let indexes := (t.uniqueOrder conflict).filter fun ix =>
      ix.parts.any (fun p => match p.column with
        | some c => changed.contains c
        | none => (exprNames 64 p.term).any fun n => changedNames.any (sameName · n)) ||
      (ix.filter.any fun c => (exprNames 64 c).any fun n => changedNames.any (sameName · n))
    let without := t.removeRow old.rowid
    match without.firstConflict conflict [] rowidChanged indexes row with
    | some (.fail e) => throw e
    | some .skip => return (w, none)
    | _ =>
      let change := RowChange.update changed rowidChanged
      let refs := (w.database schema).referencesTo t.name
      let keyed := w.keys.on && (t.foreignKeys.any (Work.keyConcerned t change true) ||
        refs.any (Work.keyConcerned t change false ·.2))
      let fires := w.replaceFires schema t
      let removeVictims (w : Work) : Except SqlError Work :=
        (without.conflictRows rowidChanged indexes row).foldlM (fun w r =>
          if fires then do
            let (w, _) ← deleteOne f w schema name r true
            pure w
          else removeRow f w schema name r false) w
      let (w, t2) ← if keyed then do
          let w ← removeVictims w
          let t := (w.table? schema name).getD t
          let asChild := Work.keyConcerned t change true
          let asParent := Work.keyConcerned t change false
          let w := (w.childKeys schema t old.values false none asChild).parentKeys schema t old true asParent
          let w := w.putTable schema (((w.table? schema name).getD t).removeRow old.rowid)
          let t := (w.table? schema name).getD t
          let w := (w.childKeys schema t row.values true (some row) asChild).parentKeys schema t row false
            asParent
          pure (w, (w.table? schema name).getD t)
        else if fires then do
          let w ← removeVictims w
          pure (w, ((w.table? schema name).getD t).removeRow old.rowid)
        else pure (w, without)
      let (t2, _) := t2.clearConflicts rowidChanged indexes row
      if (w.checksOf t).isEmpty then
        if let some e := typeError then throw e
      let t2 := t2.insertRow row
      let w := w.putTable schema t2
      let w := { w with context := { w.context with
        changes := w.context.changes + 1, totalChanges := w.context.totalChanges + 1 } }
      let w ← if keyed then keyActions f w schema t2 old (some row) changed rowidChanged else pure w
      let t2 := (w.table? schema name).getD t2
      let (w, _) ←
        fireTriggers f w schema t2 .after isUpdate conflict (some old.bound) (some row.bound)
      return (w, some row)

/-- `UPDATE` を走らせる。 -/
def updateStatement : Nat → Work → List Frame → Option String → List CommonTable →
    Option Conflict → Option Name → Name → Option Name → List Assignment → Option Expr →
    List ResultColumn → Except SqlError (Work × QueryResult)
  | 0, _, _, _, _, _, _, _, _, _, _, _ => .error tooDeep
  | f + 1, w, frames, fixed, common, conflict, schema, table, label, sets, filter, returning => do
    let setNames := sets.flatMap fun a => a.columns.map (·.text)
    let target ← writeTarget f w fixed schema table (TriggerEvent.isUpdateNaming setNames)
    let sn := target.schema
    let t := target.shape
    let defs := common.map CommonTable.toDef
    let env : Env := { w.env with frames, common := defs, fixedSchema := fixed }
    let aliasName := (label.map (·.text)).getD t.name
    let targets ← assignmentTargets t sets
    let frame : Frame := ⟨[t.binding sn aliasName], [], [], none⟩
    checkList f (env.push frame) false (targets.map (·.2))
    if let some c := filter then checkWhole f (env.push frame) false c
    let outs ← checkReturning f env t sn aliasName returning
    if let .table .. := target then
      let changed := targets.flatMap fun (cols, _) => cols.filterMap id
      let rowidChanged := targets.any fun (cols, _) =>
        cols.any fun c => c.isNone || (c.isSome && c == t.rowidAlias)
      w.checkKeys sn t (.update changed rowidChanged)
    if let .view _ v _ := target then
      let rows ← viewRows f env sn v t filter
      let (w, out) ← rows.foldlM (fun (acc : Work × List (Array Value)) old => do
        let (w, out) := acc
        let env' := { env with catalog := w.catalog, context := w.context }
        let assigned ← assignValues f (env'.push ⟨[t.binding sn aliasName], [old], [], none⟩) targets
        let values := assigned.foldl (fun vs (tgt, v) => match tgt with
          | some i => setValue vs i v
          | none => vs) old.values
        let rowid : Option Int := match ((assigned.find? (·.1.isNone)).map (·.2) : Option Value) with
          | some (.integer n) => some n
          | some _ => none
          | none => old.rowid
        let changed := assigned.filterMap (·.1)
        let (w, ignored) ← fireTriggers f w sn t .insteadOf (TriggerEvent.isUpdateOf t changed)
          conflict (some old) (some ⟨values, rowid⟩)
        if ignored || returning.isEmpty then return (w, out)
        let line ← returningRow f { env with catalog := w.catalog } t sn aliasName outs
          ⟨rowid.getD 0, values⟩
        return (w, out ++ [line])) (w, [])
      return (w, ⟨returningColumns t sn aliasName outs, out⟩)
    let matching ← t.rows.toList.filterM fun r => do
      match filter with
      | some c => do pure ((← eval f (env.push (t.frameOf sn aliasName r)) c).truth? == some true)
      | none => pure true
    let (w, out) ← matching.foldlM (fun (acc : Work × List (Array Value)) r => do
      let (w, out) := acc
      let t' := (w.table? sn t.name).getD t
      match t'.row? r.rowid with
      | none => return acc
      | some current =>
        let env' := { env with catalog := w.catalog, context := w.context }
        let assigned ← assignValues f (env'.push (t'.frameOf sn aliasName current)) targets
        let (w, changedRow) ← updateOne f w sn t.name conflict current assigned
        match changedRow with
        | some r2 =>
          let t'' := (w.table? sn t.name).getD t
          let line ← returningRow f { env with catalog := w.catalog } t'' sn aliasName outs r2
          return (w, out ++ (if returning.isEmpty then [] else [line]))
        | none => return (w, out)) (w, [])
    let w ← w.settlePages sn
    return (w, ⟨returningColumns t sn aliasName outs, out⟩)

/-- `DELETE` を走らせる。 -/
def deleteStatement : Nat → Work → List Frame → Option String → List CommonTable →
    Option Name → Name → Option Name → Option Expr → List ResultColumn →
    Except SqlError (Work × QueryResult)
  | 0, _, _, _, _, _, _, _, _, _ => .error tooDeep
  | f + 1, w, frames, fixed, common, schema, table, label, filter, returning => do
    let target ← writeTarget f w fixed schema table TriggerEvent.isDelete
    let sn := target.schema
    let t := target.shape
    let defs := common.map CommonTable.toDef
    let env : Env := { w.env with frames, common := defs, fixedSchema := fixed }
    let aliasName := (label.map (·.text)).getD t.name
    let frame : Frame := ⟨[t.binding sn aliasName], [], [], none⟩
    if let some c := filter then checkWhole f (env.push frame) false c
    let outs ← checkReturning f env t sn aliasName returning
    if let .table .. := target then w.checkKeys sn t .delete
    if let .view _ v _ := target then
      let rows ← viewRows f env sn v t filter
      let (w, out) ← rows.foldlM (fun (acc : Work × List (Array Value)) old => do
        let (w, out) := acc
        let (w, ignored) ← fireTriggers f w sn t .insteadOf TriggerEvent.isDelete none (some old) none
        if ignored || returning.isEmpty then return (w, out)
        let line ← returningRow f { env with catalog := w.catalog } t sn aliasName outs
          ⟨old.rowid.getD 0, old.values⟩
        return (w, out ++ [line])) (w, [])
      return (w, ⟨returningColumns t sn aliasName outs, out⟩)
    let matching ← t.rows.toList.filterM fun r => do
      match filter with
      | some c => do pure ((← eval f (env.push (t.frameOf sn aliasName r)) c).truth? == some true)
      | none => pure true
    let (w, out) ← matching.foldlM (fun (acc : Work × List (Array Value)) r => do
      let (w, out) := acc
      let t' := (w.table? sn t.name).getD t
      match t'.row? r.rowid with
      | none => return acc
      | some current =>
        let (w, ignored) ←
          fireTriggers f w sn t' .before TriggerEvent.isDelete none (some current.bound) none
        if ignored then return (w, out)
        if ((w.table? sn t.name).bind (·.row? current.rowid)).isNone then return (w, out)
        let line ← if returning.isEmpty then pure #[]
          else returningRow f { env with catalog := w.catalog } t' sn aliasName outs current
        let w ← removeRow f w sn t.name current true
        let t2 := (w.table? sn t.name).getD t'
        let (w, _) ←
          fireTriggers f w sn t2 .after TriggerEvent.isDelete none (some current.bound) none
        return (w, out ++ (if returning.isEmpty then [] else [line]))) (w, [])
    let w ← w.settlePages sn
    return (w, ⟨returningColumns t sn aliasName outs, out⟩)

/-- 外部キーが求めることとともに表の行を除く: その行がなくなることでもたらす違反、
それからそれを指すキーの動作。`count` が成り立てば変更を一つ数える。 -/
def removeRow : Nat → Work → String → String → Row → Bool → Except SqlError Work
  | 0, _, _, _, _, _ => .error tooDeep
  | f + 1, w, sn, name, current, count => do
    let t := (w.table? sn name).getD default
    let all : ForeignKey → Bool := fun _ => true
    let w := if w.keys.on then
        (w.childKeys sn t current.values false none all).parentKeys sn t current true all
      else w
    let t2 := ((w.table? sn name).getD t).removeRow current.rowid
    let w := w.putTable sn t2
    let w := if count then { w with context := { w.context with
        changes := w.context.changes + 1, totalChanges := w.context.totalChanges + 1 } } else w
    if w.keys.on then keyActions f w sn t2 current none [] false else return w

/-- `DELETE` がするように表の行を一つ削除する: 前のトリガー、外部キーが求めることとともに行
(前のトリガーが除いていなければ)、後のトリガー。行をそのままにしたなら偽。`REPLACE` が除く行
(`replacing`) は変更と数えず、トリガーの文は衝突を `REPLACE` で解決する。 -/
def deleteOne : Nat → Work → String → String → Row → Bool → Except SqlError (Work × Bool)
  | 0, _, _, _, _, _ => .error tooDeep
  | f + 1, w, sn, name, current, replacing => do
    let t := (w.table? sn name).getD default
    let orconf : Option Conflict := if replacing then some .replace else none
    let (w, ignored) ←
      fireTriggers f w sn t .before TriggerEvent.isDelete orconf (some current.bound) none
    if ignored then return (w, false)
    if ((w.table? sn name).bind (·.row? current.rowid)).isNone then return (w, false)
    let w ← removeRow f w sn name current !replacing
    let t2 := (w.table? sn name).getD t
    let (w, _) ←
      fireTriggers f w sn t2 .after TriggerEvent.isDelete orconf (some current.bound) none
    return (w, true)

/-- 削除した (`new` がなし) か変えた親の行に対して、表を指す外部キーの動作を行う:
行がそれを名指す間は拒む (`RESTRICT`。どのキーもコミットまで待つなら除く)、そのキーを NULL
か既定値にする、それらを削除する、または新しいキーを与える (`CASCADE`)。更新は、
列を変えて値が変わったキーに対して動く。 -/
def keyActions : Nat → Work → String → Table → Row → Option Row → List Nat → Bool →
    Except SqlError Work
  | 0, _, _, _, _, _, _, _ => .error tooDeep
  | f + 1, w, sn, t, old, new, changed, rowidChanged =>
    ((w.database sn).referencesTo t.name).foldlM (fun w (child0, fk) => do
      let action := if new.isNone then fk.onDelete else fk.onUpdate
      if action == .noAction then return w
      if new.isSome && !fk.parentChanged t changed rowidChanged then return w
      if action == .restrict && w.keys.deferAll then return w
      let parent := (w.table? sn t.name).getD t
      let child := (w.table? sn child0.name).getD child0
      match fk.parentKey parent child with
      | none => return w
      | some key =>
        let keyChanged := match new with
          | none => true
          | some nr => key.pairs.any fun (pc, _) =>
            match pc with
            | some p =>
              let col := parent.columns.getD p default
              match Value.comparison .isNot (some col.affinity) col.collation (old.values.getD p .null)
                  (nr.values.getD p .null) with
              | .integer 1 => true
              | _ => false
            | none => old.rowid != nr.rowid
        if !keyChanged then return w
        let rows := key.referring parent child old false
        if rows.isEmpty then return w
        let saved := w.context
        let newValue (pc : Option Nat) (cc : Nat) : Except SqlError Value :=
          match action, new with
          | .cascade, some nr =>
            match pc with
            | some p => pure (nr.values.getD p .null)
            | none => pure (.integer nr.rowid)
          | .setDefault, _ =>
            match (child.columns[cc]?).bind (·.defaultValue) with
            | some d => eval f w.env d
            | none => pure .null
          | _, _ => pure .null
        let w ← match action, new with
          | .restrict, _ => throw restrictFailure
          | .noAction, _ => pure w
          | .cascade, none =>
            rows.foldlM (fun w r => do
              match (w.table? sn child.name).bind (·.row? r.rowid) with
              | some current => do
                let (w, _) ← deleteOne f w sn child.name current false
                pure w
              | none => pure w) w
          | _, _ => do
            let assigned ← key.pairs.mapM fun (pc, cc) => do
              return ((some cc : Option Nat), (← newValue pc cc))
            rows.foldlM (fun w r => do
              match (w.table? sn child.name).bind (·.row? r.rowid) with
              | some current => do
                let (w, _) ← updateOne f w sn child.name (some .abort) current assigned
                pure w
              | none => pure w) w
        return { w with context := { w.context with
          lastInsertRowid := saved.lastInsertRowid, changes := saved.changes } }) w

end

end HttpCaching.Sql
