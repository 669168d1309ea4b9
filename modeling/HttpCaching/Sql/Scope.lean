import HttpCaching.Sql.Function
/-!
# 名前の解決

式の中の列の名前を、問い合わせの `FROM` の源に結び付ける。

* 源 (`Binding`) は名前 (別名か表の名前)、スキーマ、列の並び (名前・親和性・照合) を持つ。
  問い合わせが入れ子になれば、内側の枠から外側の枠へ順に探す。
* 修飾のない名前は、今の枠のすべての源の列から探す。二つ以上に当たれば
  `ambiguous column name`、当たらなければ、源が一つで行番号を持つなら `rowid`・`oid`・
  `_rowid_` は行番号、次に結果の列の別名、それでもなければ外の枠。どこにもなければ
  二重引用符の名前は文字列、引用のない `true`・`false` は 1 と 0、ほかは
  `no such column`。
* 式の親和性は、列なら列の親和性、`CAST` なら型の親和性、`COLLATE` なら中の式のもの。
  照合は `COLLATE` が明示された側 (左が先)、なければ左の列、右の列の順に決まる。
* スキーマの中の表は、名前だけなら `temp`、`main`、付け加えたデータベースの順に探す。
-/
namespace HttpCaching.Sql

/-- 源が差し出す列: 名前、持てばその親和性と照合順序、`*` がそれを除くかどうか。 -/
structure SourceColumn where
  name : String
  affinity : Option Affinity
  collation : Option Collation
  hidden : Bool
  deriving Inhabited

/-- 名前から見た行の源: それが通る名前 (別名か自分の名前)、スキーマ、列、行番号を持つかどうか、
行が来る表、ビュー、共通表の名前。 -/
structure Binding where
  name : String
  schema : Option String
  columns : Array SourceColumn
  hasRowid : Bool
  origin : String
  deriving Inhabited

/-- 源の今の行: 値と行番号 (外部のつなぎが足す空の行ではなし)。 -/
structure BoundRow where
  values : Array Value
  rowid : Option Int
  deriving Inhabited

/-- 名前の一つの段: 源とその今の行、使ってよい結果の列の別名、問い合わせが集約するときの今のグループ
の行。 -/
structure Frame where
  bindings : List Binding
  rows : List BoundRow
  aliases : List (String × Expr)
  group : Option (List (List BoundRow))
  deriving Inhabited

/-- 列の名前が表すもの。 -/
inductive Target where
  /-- 源の列: 段 (零が最も内側)、源、列。 -/
  | column (depth source column : Nat) (info : SourceColumn)
  | rowid (depth source : Nat)
  /-- 段での、別名による結果の列の式。 -/
  | label (depth : Nat) (e : Expr)
  | text (s : String)
  | truth (b : Bool)
  deriving Inhabited

/-- 名前が行番号の名前のどれかかどうか。 -/
def isRowidName (s : String) : Bool :=
  sameName s "rowid" || sameName s "oid" || sameName s "_rowid_"

/-- ないか曖昧な列の名前の文。書いたとおりのパスをつける。 -/
def columnMessage (what : String) (path : List Name) : String :=
  what ++ ": " ++ ".".intercalate (path.map (·.text))

/-- 段の中で列の名前を、内側から探す。 -/
def lookupColumn (frames : List Frame) (path : List Name) : Except SqlError Target :=
  let (schema, table, col) : Option Name × Option Name × Name :=
    match path with
    | [c] => (none, none, c)
    | [t, c] => (none, some t, c)
    | s :: t :: c :: _ => (some s, some t, c)
    | [] => (none, none, ⟨"", false⟩)
  go frames 0 schema table col
where
  /-- ある段から外へ探す。 -/
  go : List Frame → Nat → Option Name → Option Name → Name → Except SqlError Target
    | [], _, _, table, col =>
      if table.isNone && col.doubleQuoted then .ok (.text col.text)
      else if table.isNone && sameName col.text "true" then .ok (.truth true)
      else if table.isNone && sameName col.text "false" then .ok (.truth false)
      else .error (.logic (columnMessage "no such column" path))
    | f :: rest, depth, schema, table, col =>
      let candidates := f.bindings.zipIdx.filter fun (b, _) =>
        (table.all fun t => sameName b.name t.text) &&
          (schema.all fun s => b.schema.any (sameName · s.text))
      let hits := candidates.filterMap fun (b, i) =>
        match b.columns.toList.findIdx? fun c =>
            sameName c.name col.text && (table.isSome || !c.hidden) with
        | some j => some (i, j, b.columns[j]?.getD default)
        | none => none
      match hits with
      | [(i, j, info)] => .ok (.column depth i j info)
      | _ :: _ :: _ => .error (.logic (columnMessage "ambiguous column name" path))
      | [] =>
        let rowidSources := candidates.filter (·.1.hasRowid)
        if isRowidName col.text && rowidSources.length == 1 && candidates.length == 1 then
          .ok (.rowid depth (rowidSources.head?.map (·.2) |>.getD 0))
        else if table.isNone then
          match f.aliases.find? (sameName ·.1 col.text) with
          | some (_, e) => .ok (.label depth e)
          | none => go rest (depth + 1) schema table col
        else go rest (depth + 1) schema table col

/-- 式が、副問い合わせの外で明示した `COLLATE` を持つかどうか。 -/
def hasCollate : Nat → Expr → Bool
  | 0, _ => false
  | fuel + 1, e =>
    match e with
    | .collate _ _ => true
    | .unary _ a | .nullTest a _ | .cast a _ => hasCollate fuel a
    | .binary _ a b => hasCollate fuel a || hasCollate fuel b
    | .like _ _ a b c => hasCollate fuel a || hasCollate fuel b || c.any (hasCollate fuel)
    | .between _ a b c => hasCollate fuel a || hasCollate fuel b || hasCollate fuel c
    | .inList _ a items => hasCollate fuel a || items.any (hasCollate fuel)
    | .inQuery _ a _ | .inTable _ a _ _ => hasCollate fuel a
    | .call _ _ args _ _ => args.any (hasCollate fuel)
    | .vector items => items.any (hasCollate fuel)
    | .caseOf s arms o =>
      s.any (hasCollate fuel) || arms.any (fun (x, y) => hasCollate fuel x || hasCollate fuel y) ||
        o.any (hasCollate fuel)
    | _ => false

/-- 式が比較にもたらす照合順序: 明示したもの、または列のもの。 -/
def exprCollation (frames : List Frame) : Nat → Expr → Option Collation
  | 0, _ => none
  | fuel + 1, e =>
    match e with
    | .collate _ name => some ((Collation.ofName? name).getD .binary)
    | .column path =>
      match lookupColumn frames path with
      | .ok (.column _ _ _ info) => info.collation
      | .ok (.label _ a) => exprCollation frames fuel a
      | _ => none
    | .cast a _ | .unary .plus a => exprCollation frames fuel a
    | .vector (a :: _) => exprCollation frames fuel a
    | _ =>
      if !hasCollate (fuel + 1) e then none
      else
        let children : List Expr := match e with
          | .unary _ a | .nullTest a _ => [a]
          | .binary _ a b => [a, b]
          | .like _ _ a b c => [a, b] ++ c.toList
          | .between _ a b c => [a, b, c]
          | .inList _ a items => a :: items
          | .call _ _ args _ _ => args
          | .caseOf s arms o => s.toList ++ arms.flatMap (fun (x, y) => [x, y]) ++ o.toList
          | _ => []
        match children.find? (hasCollate fuel) with
        | some c => exprCollation frames fuel c
        | none => none

/-- 式が持つ親和性: 列のもの、キャストの型のもの、またはなし。 -/
def exprAffinity (frames : List Frame) : Nat → Expr → Option Affinity
  | 0, _ => none
  | fuel + 1, e =>
    match e with
    | .column path =>
      match lookupColumn frames path with
      | .ok (.column _ _ _ info) => info.affinity
      | .ok (.rowid _ _) => some .integer
      | .ok (.label _ a) => exprAffinity frames fuel a
      | _ => none
    | .cast _ t => some (Affinity.ofType t)
    | .collate a _ => exprAffinity frames fuel a
    | _ => none

/-- 二つの被演算子を比べる親和性: 両方が持ちどちらかが数のものなら数のもの、
両方が持ちそれ以外ならなし、それ以外はあるほう。 -/
def comparisonAffinity (a b : Option Affinity) : Option Affinity :=
  match a, b with
  | some x, some y =>
    if x.isNumeric || y.isNumeric then some .numeric else none
  | some x, none => some x
  | none, some y => some y
  | none, none => none

/-- 二つの被演算子の比較が使う照合順序。 -/
def comparisonCollation (frames : List Frame) (a b : Expr) : Collation :=
  let fuel := 64
  if hasCollate fuel a then (exprCollation frames fuel a).getD .binary
  else if hasCollate fuel b then (exprCollation frames fuel b).getD .binary
  else ((exprCollation frames fuel a).orElse fun _ => exprCollation frames fuel b).getD .binary

/-- 接続が見るデータベース。スキーマの名前で: main が先、それから temp、それから付け加えたもの。 -/
structure Catalog where
  schemas : List (String × Database)
  deriving Inhabited

/-- 名前つきの関係: 表、ビュー、またはスキーマの定義の表。 -/
inductive Relation where
  | table (schema : String) (t : Table)
  | view (schema : String) (v : View)
  | master (schema : String)
  deriving Inhabited

namespace Catalog

/-- 修飾のない名前が探す順のスキーマ: temp、main、それからほか。 -/
def searchOrder (c : Catalog) : List (String × Database) :=
  let temp := c.schemas.filter (sameName ·.1 "temp")
  let main := c.schemas.filter (sameName ·.1 "main")
  let others := c.schemas.filter fun s => !sameName s.1 "temp" && !sameName s.1 "main"
  temp ++ main ++ others

/-- スキーマの名前のデータベース。 -/
def schema? (c : Catalog) (name : String) : Option (String × Database) :=
  c.schemas.find? (sameName ·.1 name)

/-- 一つのデータベースの中の名前の関係。 -/
def relationIn (schemaName : String) (d : Database) (name : String) : Option Relation :=
  if (sameName name "sqlite_master" || sameName name "sqlite_schema") && !sameName schemaName "temp" then
    some (.master schemaName)
  else if sameName schemaName "temp" && (sameName name "sqlite_temp_master" ||
      sameName name "sqlite_temp_schema" || sameName name "sqlite_master" ||
      sameName name "sqlite_schema") then some (.master schemaName)
  else match d.findTable name with
    | some t => some (.table schemaName t)
    | none => (d.findView name).map (.view schemaName)

/-- 名前の関係。名指したスキーマの中で、または順に探して。 -/
def relation? (c : Catalog) (schema : Option String) (name : String) : Option Relation :=
  match schema with
  | some s =>
    match c.schema? s with
    | some (sn, d) => relationIn sn d name
    | none => none
  | none =>
    if sameName name "sqlite_temp_master" || sameName name "sqlite_temp_schema" then
      some (.master "temp")
    else c.searchOrder.findSome? fun (sn, d) => relationIn sn d name

/-- スキーマのデータベースを変える。 -/
def update (c : Catalog) (schema : String) (f : Database → Database) : Catalog :=
  ⟨c.schemas.map fun (n, d) => if sameName n schema then (n, f d) else (n, d)⟩

end Catalog

/-- 定義の表の列。 -/
def masterColumns : Array SourceColumn :=
  #[⟨"type", some .text, none, false⟩, ⟨"name", some .text, none, false⟩,
    ⟨"tbl_name", some .text, none, false⟩, ⟨"rootpage", some .integer, none, false⟩,
    ⟨"sql", some .text, none, false⟩]

/-- スキーマの定義の表の自分の名前。 -/
def masterName (schema : String) : String :=
  if sameName schema "temp" then "sqlite_temp_master" else "sqlite_master"

/-- 定義の表の行: 表とその索引、ビューとトリガー、それぞれ作った順に。
根のページは二から数え上げる。 -/
def masterRows (d : Database) : List BoundRow :=
  let entries : List (Nat × Array Value) :=
    d.tables.flatMap (fun t =>
      (t.seq, #[.text "table", .text t.name, .text t.name, .integer 0, .text ("CREATE TABLE " ++ t.text)]) ::
        (t.indexes.map fun i =>
          (i.seq, #[.text "index", .text i.name, .text t.name, .integer 0,
            match i.text with
            | some s => .text ("CREATE " ++ (if i.unique then "UNIQUE " else "") ++ "INDEX " ++ s)
            | none => .null]))) ++
    d.views.map (fun v =>
      (v.seq, #[.text "view", .text v.name, .text v.name, .integer 0, .text ("CREATE VIEW " ++ v.text)])) ++
    d.triggers.map (fun tr =>
      (tr.seq, #[.text "trigger", .text tr.name, .text tr.table, .integer 0,
        .text ("CREATE TRIGGER " ++ tr.text)]))
  let sorted := entries.mergeSort fun a b => a.1 ≤ b.1
  let numbered := sorted.zipIdx.map fun ((_, vs), i) =>
    let kind : Value := vs[0]?.getD .null
    let page : Value := match kind with
      | Value.text "view" | Value.text "trigger" => .integer 0
      | _ => .integer (i + 2)
    ⟨vs.set! 3 page, some (i + 1)⟩
  numbered

/-- 表が名前に差し出す列。 -/
def Table.sourceColumns (t : Table) : Array SourceColumn :=
  t.columns.map fun c => ⟨c.name, some c.affinity, some c.collation, false⟩

end HttpCaching.Sql
