import HttpCaching.Sql.Write
/-!
# 定義を作り、変え、消す文

`CREATE TABLE`・`CREATE INDEX`・`CREATE VIEW`・`CREATE TRIGGER`、`DROP`、`ALTER TABLE`。

* 定義は `TEMP` なら temp に、スキーマの名前があればそこに、なければ main に入る。名前が
  `sqlite_` で始まるものは作れない。同じ名前の表・ビュー・索引は、そのスキーマの中で重ねられ
  ない (`IF NOT EXISTS` なら何もしない)。
* 表の列は型の名前から親和性を、`COLLATE` から照合を得る。型がちょうど `INTEGER` の一列の
  主キー (列の制約なら降順でないもの) は行番号の別名になり、ほかの主キーと `UNIQUE` は
  `sqlite_autoindex_表_番号` の索引になる。同じ列の一意の索引は一つにまとめる。索引の並びは
  新しいものが前で、`REPLACE` で解く索引は後ろに置く。
* STRICT の表の列は `INT`・`INTEGER`・`REAL`・`TEXT`・`BLOB`・`ANY` のどれかの型を持つ。
* 一意の索引を作るとき、すでにある行のキーが重なれば失敗する。
* 定義を作ると、そのデータベースのテキストの符号化が決まり、ページが要る。
-/
namespace HttpCaching.Sql

/-- 定義のテキストの最初の字句: 文が綴る名前。 -/
def leadingWord (text : String) : String :=
  ((tokenize (Text.bytesOf text)).head?.map Token.text).getD ""

/-- 名前がデータベース自身の対象のためにとってあるかどうか。 -/
def isReservedName (name : String) : Bool :=
  (nameKey name).take 7 == Text.bytesOf "sqlite_"

/-- 定義が入るスキーマ: `TEMP` なら temp、名指したもの、それ以外は main。 -/
def definitionSchema (c : Catalog) (temp : Bool) (schema : Option Name) (what : String) :
    Except SqlError String :=
  match schema with
  | some s =>
    match c.schema? s.text with
    | none => .error (.logic ("unknown database " ++ s.text))
    | some (sn, _) =>
      if temp && !sameName sn "temp" then .error (.logic what) else .ok sn
  | none => .ok (if temp then "temp" else "main")

/-- 裸の名前の `DEFAULT` が与える値: true と false は数、それ以外は名前をテキストとして。 -/
def defaultExpr (e : Expr) : Expr :=
  match e with
  | .column [n] =>
    if sameName n.text "true" then .literal (.integer 1)
    else if sameName n.text "false" then .literal (.integer 0)
    else .literal (.text n.text)
  | e => e

/-- 宣言した型が、整数の主キーを行番号にするかどうか。 -/
def isIntegerType (type : String) : Bool := sameName type "INTEGER"

/-- 厳格な表が許す標準の型。 -/
def strictTypes : List String := ["INT", "INTEGER", "REAL", "TEXT", "BLOB", "ANY"]

/-- 定義を読んでいる途中の表: そこまでの列、主キー、来た順の一意なキー、確かめ、外部キー。 -/
structure TableDraft where
  columns : Array Column
  primary : Option (List IndexedColumn × Conflict × Bool × Bool)
  uniques : List (List IndexedColumn × Conflict × Bool)
  checks : List Check
  foreignKeys : List ForeignKey
  deriving Inhabited

/-- そこまでに定義した最後の外部キーを遅らせるかどうかを決める。 -/
def TableDraft.deferLast (d : TableDraft) (deferred : Bool) : TableDraft :=
  match d.foreignKeys.getLast? with
  | some fk => { d with foreignKeys := d.foreignKeys.dropLast ++ [{ fk with deferred }] }
  | none => d

/-- 定義している表の、索引をつけた列のキーの部分。 -/
def keyPartOf (columns : Array Column) (c : IndexedColumn) : Except SqlError KeyPart := do
  let place := match c.e with
    | .column [n] => columns.toList.findIdx? fun (col : Column) => sameName col.name n.text
    | _ => none
  let coll ← match c.collation with
    | some name =>
      match Collation.ofName? name with
      | some k => pure k
      | none => throw (.logic ("no such collation sequence: " ++ name))
    | none => pure ((place.bind fun i => (columns[i]? : Option Column).map (·.collation)).getD .binary)
  match place, c.e with
  | none, .column [n] => throw (SqlError.logic ("no such column: " ++ n.text))
  | _, _ => pure ⟨place, c.e, coll, c.descending⟩

/-- 下書きに列の定義を足す。 -/
def TableDraft.addColumn (d : TableDraft) (tableName : String) (c : ColumnDef) :
    Except SqlError TableDraft := do
  if d.columns.any (sameName ·.name c.name.text) then
    throw (.logic ("duplicate column name: " ++ c.name.text))
  let base : Column := ⟨c.name.text, c.type, Affinity.ofType c.type, .binary, none, none, none,
    false, none⟩
  let step := fun (acc : TableDraft × Column × Option String) (k : ColumnConstraint) => do
    let (d, col, constraintName) := acc
    let me : IndexedColumn := ⟨.column [c.name], none, false⟩
    match k with
    | .named n => return (d, col, some n.text)
    | .primaryKey desc conflict auto =>
      if d.primary.isSome then
        throw (.logic ("table \"" ++ tableName ++ "\" has more than one primary key"))
      return ({ d with primary := some ([{ me with descending := desc }], conflict.getD .abort,
        auto, true) }, { col with primaryKey := true }, none)
    | .notNull conflict => return (d, { col with notNull := some (conflict.getD .abort) }, none)
    | .nullable => return (d, col, none)
    | .unique conflict =>
      return ({ d with uniques := d.uniques ++ [([me], conflict.getD .abort, false)] }, col, none)
    | .check e text =>
      return ({ d with checks := d.checks ++ [⟨constraintName.getD text, e⟩] }, col, none)
    | .defaultValue e text =>
      return (d, { col with defaultValue := some (defaultExpr e), defaultText := some text }, none)
    | .collate name =>
      match Collation.ofName? name with
      | some k => return (d, { col with collation := k }, none)
      | none => throw (.logic ("no such collation sequence: " ++ name))
    | .references r =>
      if r.columns.length > 1 then
        throw (.logic ("foreign key on " ++ c.name.text ++
          " should reference only one column of table " ++ r.table.text))
      return ({ d with foreignKeys := d.foreignKeys ++
        [⟨[c.name.text], r.table.text, r.columns.map (·.text), r.onDelete, r.onUpdate, false⟩] },
        col, none)
    | .deferral deferred => return (d.deferLast deferred, col, constraintName)
    | .generated e stored => return (d, { col with generated := some (e, stored) }, none)
  let (d, col, _) ← c.constraints.foldlM step (d, base, none)
  return { d with columns := d.columns.push col }

/-- 下書きに表の制約を足す。 -/
def addTableConstraint (tableName : String) (acc : TableDraft × Option String) (k : TableConstraint) :
    Except SqlError (TableDraft × Option String) := do
  let (d, constraintName) := acc
  match k with
  | .named n => return (d, some n.text)
  | .primaryKey cols conflict auto =>
    if d.primary.isSome then
      throw (.logic ("table \"" ++ tableName ++ "\" has more than one primary key"))
    let names := cols.filterMap fun c => match c.e with
      | .column [n] => some n.text
      | _ => none
    let columns := d.columns.map fun col =>
      if names.any (sameName · col.name) then { col with primaryKey := true } else col
    return ({ d with primary := some (cols, conflict.getD .abort, auto, false), columns }, none)
  | .unique cols conflict =>
    return ({ d with uniques := d.uniques ++ [(cols, conflict.getD .abort, false)] }, none)
  | .check e text => return ({ d with checks := d.checks ++ [⟨constraintName.getD text, e⟩] }, none)
  | .foreignKey cols r deferred =>
    if !r.columns.isEmpty && r.columns.length != cols.length then
      throw (.logic ("number of columns in foreign key does not match the number of columns " ++
        "in the referenced table"))
    if let some n := cols.find? (fun n => !d.columns.any (sameName ·.name n.text)) then
      throw (.logic ("unknown column \"" ++ n.text ++ "\" in foreign key definition"))
    return ({ d with foreignKeys := d.foreignKeys ++
      [⟨cols.map (·.text), r.table.text, r.columns.map (·.text), r.onDelete, r.onUpdate,
        deferred⟩] }, none)

/-- 表の一覧に索引を置く: 新しい索引が先、`REPLACE` で解決するものはほかの後。 -/
def insertIndex (ix : Index) (list : List Index) : List Index :=
  if ix.conflict != .replace then ix :: list
  else
    let (front, back) := list.span (·.conflict != .replace)
    front ++ ix :: back

/-- 二つの索引が同じキーを持つかどうか。 -/
def sameKey (a b : List KeyPart) : Bool :=
  a.length == b.length && (a.zip b).all fun (x, y) =>
    x.column.isSome && x.column == y.column && x.collation == y.collation &&
      x.descending == y.descending

/-- 同じキーのものがなければ、制約の索引を表に足す。名前は次の自動のもの。 -/
def addConstraintIndex (t : Table) (parts : List KeyPart) (conflict : Conflict) (primary : Bool)
    (seq : Nat) : Except SqlError (Table × Bool) := do
  match t.indexes.find? (sameKey ·.parts parts) with
  | some existing =>
    if existing.conflict != conflict && existing.conflict != .abort && conflict != .abort then
      throw (.logic "conflicting ON CONFLICT clauses specified")
    let merged := { existing with
      primary := existing.primary || primary
      conflict := if existing.conflict == .abort then conflict else existing.conflict }
    return ({ t with indexes := t.indexes.map fun ix => if ix.name == existing.name then merged else ix },
      false)
  | none =>
    let name := "sqlite_autoindex_" ++ t.name ++ "_" ++ toString (t.indexes.length + 1)
    let ix : Index := ⟨name, parts, true, conflict, primary, none, none, seq⟩
    return ({ t with indexes := insertIndex ix t.indexes }, true)

/-- 列の定義と制約から表を組み立てる。 -/
def buildTable (name : String) (defs : List ColumnDef) (constraints : List TableConstraint)
    (withoutRowid strict : Bool) (text : String) (seq : Nat) : Except SqlError Table := do
  let empty : TableDraft := ⟨#[], none, [], [], []⟩
  -- 制約の索引を作る順: 列の制約、それから表の制約
  let (d, order) ← defs.foldlM (fun (acc : TableDraft × List (Bool × List IndexedColumn × Conflict)) c => do
    let (d, order) := acc
    let d' ← d.addColumn name c
    let newPrimary := match d.primary, d'.primary with
      | none, some (cols, conflict, _, _) => [(true, cols, conflict)]
      | _, _ => []
    let newUniques := (d'.uniques.drop d.uniques.length).map fun (cols, conflict, _) =>
      (false, cols, conflict)
    return (d', order ++ newPrimary ++ newUniques)) (empty, [])
  let before := d
  let (d, _) ← constraints.foldlM (addTableConstraint name) (d, none)
  let order := order ++ (match before.primary, d.primary with
    | none, some (cols, conflict, _, _) => [(true, cols, conflict)]
    | _, _ => []) ++ (d.uniques.drop before.uniques.length).map fun (cols, conflict, _) =>
      (false, cols, conflict)
  if strict then
    for col in d.columns do
      if col.type.isEmpty then throw (.logic ("missing datatype for " ++ name ++ "." ++ col.name))
      if !strictTypes.contains (strictType col) then
        throw (.logic ("unknown datatype for " ++ name ++ "." ++ col.name ++ ": \"" ++ col.type ++ "\""))
  let rowidAlias : Option Nat := match d.primary with
    | some ([c], _, _, fromColumn) =>
      match c.e with
      | .column [n] =>
        match d.columns.toList.findIdx? (sameName ·.name n.text) with
        | some i =>
          if !withoutRowid && isIntegerType ((d.columns[i]?.map (·.type)).getD "") &&
              !(fromColumn && c.descending) then some i else none
        | none => none
      | _ => none
    | _ => none
  let autoincrement := match d.primary with
    | some (_, _, auto, _) => auto
    | none => false
  if autoincrement && rowidAlias.isNone then
    throw (.logic (if withoutRowid then "AUTOINCREMENT not allowed on WITHOUT ROWID tables"
      else "AUTOINCREMENT is only allowed on an INTEGER PRIMARY KEY"))
  if withoutRowid && d.primary.isNone then
    throw (.logic ("PRIMARY KEY missing on table " ++ name))
  let rowidConflict := match d.primary, rowidAlias with
    | some (_, conflict, _, _), some _ => conflict
    | _, _ => .abort
  let base : Table := ⟨name, d.columns, rowidAlias, withoutRowid, strict, autoincrement,
    rowidConflict, d.checks, d.foreignKeys, [], #[], text, seq⟩
  let (t, _) ← order.foldlM (fun (acc : Table × Nat) (isPrimary, cols, conflict) => do
    let (t, n) := acc
    if isPrimary && rowidAlias.isSome then return acc
    let parts ← cols.mapM (keyPartOf t.columns)
    let (t, made) ← addConstraintIndex t parts conflict isPrimary (seq + n + 1)
    return (t, if made then n + 1 else n)) (base, 0)
  return t

/-- 問い合わせが作る列が、その親和性から得る宣言した型。 -/
def affinityType : Option Affinity → String
  | some .text => "TEXT"
  | some .numeric => "NUM"
  | some .integer => "INT"
  | some .real => "REAL"
  | _ => ""

/-- 定義のテキストが書く名前: できれば裸で、それ以外は二重引用符の中に。 -/
def quotedIdent (s : String) : String :=
  let bs := Text.bytesOf s
  let plain := !bs.isEmpty && !isDigitByte (bs.headD 0) && bs.all isNameByte &&
    !(keywords.contains (String.ofList (s.toList.map Char.toUpper)))
  if plain then s else "\"" ++ String.join (s.toList.map fun c => if c == '"' then "\"\"" else c.toString) ++ "\""

/-- データベースでそこまでに作った定義を数える。 -/
def Database.bump (d : Database) (n : Nat) : Database :=
  { d with nextSeq := d.nextSeq + n, schemaVersion := d.schemaVersion + 1, encodingFixed := true }

/-- 名前がデータベースの表、ビュー、索引にとられていれば失敗する。 -/
def nameTaken (d : Database) (name : String) (word : String) : Except SqlError Unit := do
  if let some t := d.findTable name then
    let _ := t
    throw (.logic ("table " ++ word ++ " already exists"))
  if (d.findView name).isSome then throw (.logic ("view " ++ word ++ " already exists"))
  if (d.findIndex name).isSome then throw (.logic ("there is already an index named " ++ name))

/-- `CREATE TABLE` を走らせる。 -/
def createTable (f : Nat) (w : Work) (temp ifNotExists : Bool) (schema : Option Name) (name : Name)
    (body : TableBody) (text : String) : Except SqlError Work := do
  let sn ← definitionSchema w.catalog temp schema "temporary table name must be unqualified"
  if isReservedName name.text then
    throw (.logic ("object name reserved for internal use: " ++ name.text))
  let d := w.database sn
  if (d.findTable name.text).isSome || (d.findView name.text).isSome then
    if ifNotExists then return w
  nameTaken d name.text (leadingWord text)
  match body with
  | .columns defs constraints withoutRowid strict =>
    let t ← buildTable name.text defs constraints withoutRowid strict text d.nextSeq
    -- CHECK 制約はすぐに解決する
    let frame : Frame := ⟨[t.binding sn t.name], [], [], none⟩
    for ck in t.checks do
      checkWhole f (w.env.push frame) false ck.e
    for col in t.columns do
      if let some (e, _) := col.generated then
        checkWhole f (w.env.push frame) false e
    let w := w.change sn fun d =>
      ({ d with tables := d.tables ++ [t] }).bump (1 + t.indexes.length)
    let w ← if t.autoincrement && ((w.database sn).findTable "sqlite_sequence").isNone then
        let seqTable : Table := ⟨"sqlite_sequence", #[⟨"name", "", .blob, .binary, none, none, none,
          false, none⟩, ⟨"seq", "", .blob, .binary, none, none, none, false, none⟩], none, false, false,
          false, .abort, [], [], [], #[], "sqlite_sequence(name,seq)", (w.database sn).nextSeq⟩
        pure (w.change sn fun d => ({ d with tables := d.tables ++ [seqTable] }).bump 1)
      else pure w
    w.settlePages sn
  | .query q =>
    let env := w.env
    let cols ← queryColumns f env q
    let r ← evalQuery f env q none
    let columns := cols.map fun c =>
      (⟨c.name, affinityType c.affinity, (c.affinity.getD .blob), .binary, none, none, none, false,
        none⟩ : Column)
    let defText := quotedIdent name.text ++ "(" ++ ",".intercalate (columns.toList.map fun c =>
      quotedIdent c.name ++ (if c.type.isEmpty then "" else " " ++ c.type)) ++ ")"
    let rows := r.rows.zipIdx.map fun (vs, i) =>
      (⟨i + 1, (columns.toList.zip vs.toList).map (fun (c, v) => Value.withAffinity c.affinity v) |>.toArray⟩ : Row)
    let t : Table := ⟨name.text, columns, none, false, false, false, .abort, [], [], [], rows.toArray,
      defText, d.nextSeq⟩
    let w := w.change sn fun d => ({ d with tables := d.tables ++ [t] }).bump 1
    w.settlePages sn

/-- `CREATE INDEX` を走らせる。 -/
def createIndex (f : Nat) (w : Work) (unique ifNotExists : Bool) (schema : Option Name) (name : Name)
    (table : Name) (columns : List IndexedColumn) (filter : Option Expr) (text : String) :
    Except SqlError Work := do
  let sn ← definitionSchema w.catalog false schema ""
  let d := w.database sn
  if isReservedName name.text then
    throw (.logic ("object name reserved for internal use: " ++ name.text))
  let t ← match d.findTable table.text with
    | some t => pure t
    | none =>
      if (d.findView table.text).isSome then throw (.logic "views may not be indexed")
      else throw (.logic ("no such table: " ++ sn ++ "." ++ table.text))
  if isReservedName t.name then
    throw (.logic ("table " ++ t.name ++ " may not be indexed"))
  if (d.findTable name.text).isSome || (d.findView name.text).isSome then
    throw (.logic ("there is already a table named " ++ name.text))
  if (d.findIndex name.text).isSome then
    if ifNotExists then return w
    throw (.logic ("index " ++ name.text ++ " already exists"))
  let frame : Frame := ⟨[t.binding sn t.name], [], [], none⟩
  let env := w.env.push frame
  for c in columns do
    checkWhole f env false c.e
  if let some c := filter then checkWhole f env false c
  let parts ← columns.mapM (keyPartOf t.columns)
  let ix : Index := ⟨name.text, parts, unique, .abort, false, filter, some text, d.nextSeq⟩
  if unique then
    for r in t.rows do
      if let some _ := (t.keyConflicts ix r).head? then
        throw (.unique false (ix.failureColumns t))
  let t := { t with indexes := insertIndex ix t.indexes }
  let w := w.change sn fun d => (d.putTable t).bump 1
  w.settlePages sn

/-- `CREATE VIEW` を走らせる。 -/
def createView (w : Work) (temp ifNotExists : Bool) (schema : Option Name) (name : Name)
    (columns : List Name) (q : Query) (text : String) : Except SqlError Work := do
  let sn ← definitionSchema w.catalog temp schema "temporary table name must be unqualified"
  if isReservedName name.text then
    throw (.logic ("object name reserved for internal use: " ++ name.text))
  let d := w.database sn
  if (d.findTable name.text).isSome || (d.findView name.text).isSome then
    if ifNotExists then return w
  nameTaken d name.text (leadingWord text)
  let v : View := ⟨name.text, columns.map (·.text), q, text, d.nextSeq⟩
  let w := w.change sn fun d => ({ d with views := d.views ++ [v] }).bump 1
  w.settlePages sn

/-- `CREATE TRIGGER` を走らせる。 -/
def createTrigger (w : Work) (temp ifNotExists : Bool) (schema : Option Name) (name : Name)
    (time : TriggerTime) (event : TriggerEvent) (table : List Name) (condition : Option Expr)
    (body : List Statement) (text : String) : Except SqlError Work := do
  let sn ← definitionSchema w.catalog temp schema "temporary trigger may not have qualified name"
  if isReservedName name.text then
    throw (.logic ("object name reserved for internal use: " ++ name.text))
  let tableName := (table.getLast?.map (·.text)).getD ""
  let tableSchema := if table.length > 1 then table.head?.map (·.text) else none
  let target := match tableSchema with
    | some s => w.catalog.relation? (some s) tableName
    | none => if temp then w.catalog.relation? none tableName else w.catalog.relation? (some sn) tableName
  match target with
  | none => throw (.logic ("no such table: " ++ ((tableSchema.orElse fun _ => if temp then none else some sn).map (· ++ ".")).getD "" ++ tableName))
  | some (.master _) => throw (.logic "cannot create trigger on system table")
  | some (.view _ v) =>
    if time != .insteadOf then
      throw (.logic ("cannot create " ++ (if time == .before then "BEFORE" else "AFTER") ++
        " trigger on view: " ++ sn ++ "." ++ v.name))
  | some (.table _ t) =>
    if time == .insteadOf then
      throw (.logic ("cannot create INSTEAD OF trigger on table: " ++ t.name))
  let d := w.database sn
  if (d.findTrigger name.text).isSome then
    if ifNotExists then return w
    throw (.logic ("trigger " ++ name.text ++ " already exists"))
  let tr : Trigger := ⟨name.text, tableName, time, event, condition, body, text, d.nextSeq⟩
  let w := w.change sn fun d => ({ d with triggers := d.triggers ++ [tr] }).bump 1
  w.settlePages sn

/-- 落とす対象を探すスキーマ: 名指したもの、それ以外は探す順のすべて。 -/
def dropSchemas (c : Catalog) (schema : Option Name) : List (String × Database) :=
  match schema with
  | some s => (c.schema? s.text).toList
  | none => c.searchOrder

/-- 外部キーを守っていてほかのキーがそれを指すとき、落とそうとする表を空にする: その行は、
トリガーのない `DELETE` がとるように消え、
それがすぐに確かめるキーの違反を残せば落とすことは失敗する。 -/
def Work.emptyForDrop (w : Work) (f : Nat) (sn : String) (t : Table) : Except SqlError Work := do
  if !w.keys.on || ((w.database sn).referencesTo t.name).isEmpty then return w
  let w ← t.rows.toList.foldlM (fun w r => do
    match (w.table? sn t.name).bind (·.row? r.rowid) with
    | some current => removeRow f w sn t.name current false
    | none => pure w) w
  if !w.keys.deferAll && w.keys.statement > 0 then throw keyFailure
  return w

/-- `DROP` を走らせる。 -/
def dropObject (f : Nat) (w : Work) (kind : ObjectKind) (ifExists : Bool) (schema : Option Name)
    (name : Name) : Except SqlError Work := do
  let written := writtenName schema name
  let places := dropSchemas w.catalog schema
  match kind with
  | .table | .view =>
    let hit := places.findSome? fun (sn, d) =>
      match d.findTable name.text with
      | some t => some (sn, Sum.inl t)
      | none => (d.findView name.text).map fun v => (sn, Sum.inr v)
    let isMaster := sameName name.text "sqlite_master" || sameName name.text "sqlite_schema" ||
      sameName name.text "sqlite_temp_master" || sameName name.text "sqlite_temp_schema"
    match hit, kind with
    | none, _ =>
      if isMaster && kind == .table then throw (.logic ("table " ++ name.text ++ " may not be dropped"))
      if ifExists then return w
      throw (.logic ((if kind == .table then "no such table: " else "no such view: ") ++ written))
    | some (_, Sum.inr v), .table => throw (.logic ("use DROP VIEW to delete view " ++ v.name))
    | some (_, Sum.inl t), .view => throw (.logic ("use DROP TABLE to delete table " ++ t.name))
    | some (sn, Sum.inl t), _ =>
      if isReservedName t.name && !sameName t.name "sqlite_sequence" && !sameName t.name "sqlite_stat1" then
        throw (.logic ("table " ++ t.name ++ " may not be dropped"))
      let w ← w.emptyForDrop f sn t
      let dropTriggers (n : String) (d : Database) : Database :=
        { d with triggers := d.triggers.filter fun tr =>
          !(sameName tr.table t.name && (sameName n sn || sameName n "temp")) }
      let catalog : Catalog := ⟨w.catalog.schemas.map fun (n, d) => (n, dropTriggers n d)⟩
      let w := { w with catalog }
      let w := w.change sn fun d =>
        ({ d with tables := d.tables.filter (!sameName ·.name t.name) }).bump 0
      let w := if t.autoincrement then
          match w.table? sn "sqlite_sequence" with
          | some st =>
            let keepRow (r : Row) : Bool := match r.values.getD 0 .null with
              | .text n => !sameName n t.name
              | _ => true
            w.putTable sn { st with rows := st.rows.filter keepRow }
          | none => w
        else w
      return w
    | some (sn, Sum.inr v), _ =>
      return w.change sn fun d => ({ d with views := d.views.filter (!sameName ·.name v.name) }).bump 0
  | .index =>
    match places.findSome? fun (sn, d) => (d.findIndex name.text).map (sn, ·) with
    | none =>
      if ifExists then return w
      throw (.logic ("no such index: " ++ written))
    | some (sn, (t, ix)) =>
      if ix.text.isNone then
        throw (.logic "index associated with UNIQUE or PRIMARY KEY constraint cannot be dropped")
      return w.change sn fun d =>
        (d.putTable { t with indexes := t.indexes.filter (·.name != ix.name) }).bump 0
  | .trigger =>
    match places.findSome? fun (sn, d) => (d.findTrigger name.text).map (sn, ·) with
    | none =>
      if ifExists then return w
      throw (.logic ("no such trigger: " ++ written))
    | some (sn, tr) =>
      return w.change sn fun d =>
        ({ d with triggers := d.triggers.filter (!sameName ·.name tr.name) }).bump 0

/-- `ALTER TABLE` が変える表。 -/
def alterTarget (w : Work) (schema : Option Name) (name : Name) : Except SqlError (String × Table) :=
  match w.catalog.relation? (schema.map (·.text)) name.text with
  | none => .error (.logic ("no such table: " ++ writtenName schema name))
  | some (.view _ v) => .error (.logic ("view " ++ v.name ++ " may not be altered"))
  | some (.master _) => .error (.logic ("table " ++ name.text ++ " may not be altered"))
  | some (.table sn t) =>
    if isReservedName t.name then .error (.logic ("table " ++ t.name ++ " may not be altered"))
    else .ok (sn, t)

/-- 定義のテキストの最初の字句を置き換える。 -/
def renameLeading (text newName : String) : String :=
  let first := leadingWord text
  quotedIdent newName ++ String.ofList (text.toList.drop first.length)

/-- `ALTER TABLE … RENAME TO` を走らせる。 -/
def renameTable (w : Work) (schema : Option Name) (table newName : Name) : Except SqlError Work := do
  let (sn, t) ← alterTarget w schema table
  let d := w.database sn
  if (d.findTable newName.text).isSome || (d.findView newName.text).isSome ||
      (d.findIndex newName.text).isSome then
    throw (.logic ("there is already another table or index with this name: " ++ newName.text))
  if isReservedName newName.text then
    throw (.logic ("object name reserved for internal use: " ++ newName.text))
  let t' := { t with name := newName.text, text := renameLeading t.text newName.text }
  let w := w.change sn fun d =>
    let tables := d.tables.map fun x => if sameName x.name t.name then t' else x
    let triggers := d.triggers.map fun tr =>
      if sameName tr.table t.name then { tr with table := newName.text } else tr
    ({ d with tables, triggers }).bump 0
  return w

/-- `ALTER TABLE … ADD COLUMN` を走らせる。 -/
def addColumn (f : Nat) (w : Work) (schema : Option Name) (table : Name) (c : ColumnDef)
    (text : String) : Except SqlError Work := do
  let (sn, t) ← alterTarget w schema table
  let draft : TableDraft := ⟨t.columns, none, [], [], []⟩
  let d ← draft.addColumn t.name c
  if c.constraints.any (fun k => match k with | .primaryKey .. => true | _ => false) then
    throw (.logic "Cannot add a PRIMARY KEY column")
  if c.constraints.any (fun k => match k with | .unique _ => true | _ => false) then
    throw (.logic "Cannot add a UNIQUE column")
  let col := d.columns.back!
  if let some (_, true) := col.generated then throw (.logic "cannot add a STORED column")
  let dv ← match col.defaultValue with
    | some e => eval f w.env e
    | none => pure .null
  if col.notNull.isSome && dv.isNull && col.generated.isNone then
    throw (.logic "Cannot add a NOT NULL column with default value NULL")
  let body := (t.text.toList.reverse.dropWhile fun ch => ch == ' ' || ch == ';' || ch == '\n' || ch == '\t').reverse
  let newText := String.ofList (body.dropLast) ++ ", " ++ text ++ ")"
  let rows := t.rows.map fun r => { r with values := r.values.push (Value.withAffinity col.affinity dv) }
  let t' := { t with columns := d.columns, checks := t.checks ++ d.checks, rows, text := newText }
  let w := w.change sn fun db => (db.putTable t').bump 0
  w.settlePages sn

/-- `ALTER TABLE … RENAME COLUMN` を走らせる。 -/
def renameColumn (w : Work) (schema : Option Name) (table old new : Name) : Except SqlError Work := do
  let (sn, t) ← alterTarget w schema table
  match t.columnIndex? old.text with
  | none => throw (.logic ("no such column: \"" ++ old.text ++ "\""))
  | some i =>
    if t.columns.any (sameName ·.name new.text) then
      throw (.logic ("duplicate column name: " ++ new.text))
    let t' := { t with columns := t.columns.mapIdx fun j c => if j == i then { c with name := new.text } else c }
    return w.change sn fun d => (d.putTable t').bump 0

/-- `ALTER TABLE … DROP COLUMN` を走らせる。 -/
def dropColumn (w : Work) (schema : Option Name) (table column : Name) : Except SqlError Work := do
  let (sn, t) ← alterTarget w schema table
  match t.columnIndex? column.text with
  | none => throw (.logic ("no such column: \"" ++ column.text ++ "\""))
  | some i =>
    let c := t.columns[i]?.getD default
    if c.primaryKey then throw (.logic ("cannot drop PRIMARY KEY column: \"" ++ c.name ++ "\""))
    if t.indexes.any (fun ix => ix.parts.any (·.column == some i)) then
      throw (.logic ("cannot drop UNIQUE column: \"" ++ c.name ++ "\""))
    if t.columns.size ≤ 1 then
      throw (.logic ("cannot drop column \"" ++ c.name ++ "\": no other columns exist"))
    let keep (vs : Array Value) : Array Value := (vs.toList.eraseIdx i).toArray
    let shift (p : KeyPart) : KeyPart := { p with column := p.column.map fun k => if k > i then k - 1 else k }
    let rowidAlias := t.rowidAlias.map fun k => if k > i then k - 1 else k
    let indexes := t.indexes.map fun ix => { ix with parts := ix.parts.map shift }
    let rows := t.rows.map fun r => { r with values := keep r.values }
    let t' := { t with columns := keep' t.columns i, rowidAlias, indexes, rows }
    return w.change sn fun d => (d.putTable t').bump 0
where
  /-- 一つを除いた列。 -/
  keep' (cs : Array Column) (i : Nat) : Array Column := (cs.toList.eraseIdx i).toArray

end HttpCaching.Sql
