import HttpCaching.Sql.Pragma
import HttpCaching.Sql.Statistics
/-!
# 文を走らせる

SQL のテキストを文に分け、一つずつ準備し、引数を結び付け、一歩だけ進める。

* 文は一つずつ読む。後ろの文の読み違いは、前の文が走った後で誤りになる。空の文は飛ばし、
  NUL バイトでテキストは終わる。
* 準備のときの誤り (名前、形) は引数の結び付けより先、結び付けの誤りは走らせるより先。
  名前のある引数の口は、その名前 (先頭の記号を除く) の引数か、`?NNN` と `$NNN` なら NNN 番目の
  引数に結ぶ。名前のない口は同じ番目の引数に結ぶ。見つからなければ `missing named argument`
  か `missing argument with index`。
* 一歩進めるとは、問い合わせなら最初の行を作るまで、それ以外は文を終わりまで走らせること。
* 書き込みを拒むデータベースへの書き込みは、走らせる前に `attempt to write a readonly
  database`。自動コミットでは、成功した文の書いたものをすぐコミットする。
* `EXPLAIN` は文を準備するだけで走らせない。
-/
namespace HttpCaching.Sql

/-- 文を走らせることの失敗: データベースが知らせるもの、または呼び手が与えなかったパラメーター
(呼び手の文で)。 -/
inductive ExecError where
  | sql (e : SqlError)
  | binding (message : String)
  deriving Inhabited

/-- 失敗のテキスト。 -/
def ExecError.text : ExecError → String
  | .sql e => e.render
  | .binding m => m

/-- 位置で与えた呼び手の引数を、文のパラメーターの枠に結ぶ。 -/
def bindParams (slots : Nat) (names : List (String × Nat)) (args : List Value) :
    Except ExecError (Array Value) :=
  (List.range slots).foldlM (fun (acc : Array Value) i => do
    let slot := i + 1
    match names.find? (·.2 == slot) with
    | some (name, _) =>
      let body := String.ofList (name.toList.drop 1)
      let first := name.toList.headD ' '
      if (first == '?' || first == '$') && body == toString slot && slot ≤ args.length then
        return acc.push (args.getD i .null)
      else
        match (first == '?' || first == '$'), body.toNat? with
        | true, some k =>
          if 1 ≤ k && k ≤ args.length then return acc.push (args.getD (k - 1) .null)
          else throw (.binding ("missing named argument \"" ++ body ++ "\""))
        | _, _ => throw (.binding ("missing named argument \"" ++ body ++ "\""))
    | none =>
      if slot ≤ args.length then return acc.push (args.getD i .null)
      else throw (.binding ("missing argument with index " ++ toString slot))) #[]

/-- 問い合わせがどれかの表から読むかどうか。 -/
def Query.readsTables : Query → Bool
  | .mk common first rest _ _ =>
    !common.isEmpty || (first :: rest.map (·.2)).any fun s =>
      match s with
      | .select _ _ source _ _ _ => !source.isEmpty
      | .values _ => false

/-- 表が見つかったとき、行を書く文が書くスキーマ。 -/
def writeSchema (c : Catalog) (schema : Option Name) (name : Name) : Option String :=
  match c.relation? (schema.map (·.text)) name.text with
  | some (.table sn _) | some (.view sn _) => some sn
  | _ => none

/-- 行を書く文を、準備がするように確かめる: その表、列、値の数、式の中の名前。 -/
def checkRowStatement (f : Nat) (w : Work) (s : Statement) : Except SqlError Unit := do
  match s with
  | .insert common _ schema table label columns source upserts returning =>
    let target ← writeTarget f w none schema table TriggerEvent.isInsert
    let sn := target.schema
    let t := target.shape
    let defs := common.map CommonTable.toDef
    let env : Env := { w.env with common := defs }
    let count ← match columns with
      | none => pure (t.columns.toList.filter (·.generated.isNone)).length
      | some names => do
        for n in names do
          match t.columnIndex? n.text with
          | some i =>
            if (t.columns[i]?.bind (·.generated)).isSome then
              throw (.logic ("cannot INSERT into generated column \"" ++ n.text ++ "\""))
          | none =>
            if !(isRowidName n.text && !t.withoutRowid) then
              throw (.logic ("table " ++ writtenName schema table ++ " has no column named " ++ n.text))
        pure names.length
    match source with
    | .defaults => pure ()
    | .query q =>
      let cols ← queryColumns f env q
      if columns.isNone && cols.size != count then
        throw (.logic ("table " ++ writtenName schema table ++ " has " ++ toString count ++
          " columns but " ++ toString cols.size ++ " values were supplied"))
      if columns.isSome && cols.size != count then
        throw (.logic (toString cols.size ++ " values for " ++ toString count ++ " columns"))
    if let .view _ _ _ := target then
      if !upserts.isEmpty then throw (.logic "cannot UPSERT a view")
    for u in upserts do
      if let some (cols, _) := u.target then
        if (t.upsertTarget cols).isNone then
          throw (.logic "ON CONFLICT clause does not match any PRIMARY KEY or UNIQUE constraint")
    let _ ← checkReturning f env t sn ((label.map (·.text)).getD t.name) returning
    if let .table .. := target then
      let conflict := match s with
        | .insert _ c .. => c
        | _ => none
      w.checkKeys sn t (.insert (w.insertMultiWrite sn t conflict source upserts))
  | .update common _ schema table label sets _ filter returning =>
    let setNames := sets.flatMap fun a => a.columns.map (·.text)
    let target ← writeTarget f w none schema table (TriggerEvent.isUpdateNaming setNames)
    let sn := target.schema
    let t := target.shape
    let defs := common.map CommonTable.toDef
    let env : Env := { w.env with common := defs }
    let aliasName := (label.map (·.text)).getD t.name
    let targets ← assignmentTargets t sets
    let frame : Frame := ⟨[t.binding sn aliasName], [], [], none⟩
    checkList f (env.push frame) false (targets.map (·.2))
    if let some c := filter then checkWhole f (env.push frame) false c
    let _ ← checkReturning f env t sn aliasName returning
    if let .table .. := target then
      let changed := targets.flatMap fun (cols, _) => cols.filterMap id
      let rowidChanged := targets.any fun (cols, _) =>
        cols.any fun c => c.isNone || (c.isSome && c == t.rowidAlias)
      w.checkKeys sn t (.update changed rowidChanged)
  | .delete common schema table label filter returning =>
    let target ← writeTarget f w none schema table TriggerEvent.isDelete
    let sn := target.schema
    let t := target.shape
    let defs := common.map CommonTable.toDef
    let env : Env := { w.env with common := defs }
    let aliasName := (label.map (·.text)).getD t.name
    let frame : Frame := ⟨[t.binding sn aliasName], [], [], none⟩
    if let some c := filter then checkWhole f (env.push frame) false c
    let _ ← checkReturning f env t sn aliasName returning
    if let .table .. := target then w.checkKeys sn t .delete
  | .query q => let _ ← queryColumns f w.env q
  | _ => pure ()

/-- `ATTACH` が、名前が開くデータベースをファイルの中からどう見つけるか: 置いてある所と、
書き込みを拒むかどうか。 -/
abbrev Opener := World → String → Except SqlError (Place × Bool)

namespace Connection

/-- どのデータベースの定義も読めることを確かめる。 -/
def readSchemas (c : Connection) (w : World) : Except SqlError (World × Connection) := do
  if c.starved then throw (.plain 7)
  if c.schemas.any (·.foreign) then throw (.plain 26)
  let w ← c.lockForRead w (c.schemas.map (·.name))
  return (w, { c with schemaRead := true })

/-- スキーマが書き込みを拒めば失敗する。 -/
def checkWritable (c : Connection) (schema : String) : Except SqlError Unit :=
  if c.queryOnly || (c.schema? schema).any (·.readOnly) then .error .readOnly else .ok ()

/-- 文の仕事が残したデータベースとカウンターをとる。書き込みを拒むデータベースが変わっていれば失敗す
る。 -/
def absorb (c : Connection) (before : Catalog) (w : Work) : Except SqlError Connection := do
  for (name, d) in w.catalog.schemas do
    match before.schema? name with
    | some (_, old) =>
      if old.revision != d.revision then checkWritable c name
    | none => pure ()
  return { (c.withCatalog w.catalog) with context := w.context }

/-- 自動コミットの文が書いたものをコミットする。 -/
def settle (c : Connection) (w : World) : Except SqlError (World × Connection) :=
  if c.inTransaction then .ok (w, c)
  else do
    c.lockForCommit w
    return c.commitTo w

/-- `ATTACH` か `DETACH` の値が与えるスキーマの名前: 名前はそれ自身を表す。 -/
def schemaNameOf (f : Nat) (env : Env) (e : Expr) : Except SqlError String :=
  match e with
  | .column [n] => .ok n.text
  | _ => do
    let v ← eval f env e
    return (v.asText?).getD ""

/-- 準備した文を一つ、そのパラメーターとともに走らせる。`stepOnce` は問い合わせをその最初の行で止め
る。 -/
def runStatement (f : Nat) (opener : Opener) (c : Connection) (w : World) (s : Statement)
    (params : Array Value) (stepOnce : Bool) : Except SqlError (World × Connection × QueryResult) := do
  let work := c.work params
  let before := c.catalog
  match s with
  | .explain _ inner =>
    match inner with
    | .query q =>
      let _ ← queryColumns f work.env q
    | _ => checkRowStatement f work inner
    return (w, c, QueryResult.empty)
  | .query q =>
    let (w, c) ← if q.readsTables then c.readSchemas w else pure (w, c)
    let work := c.work params
    let r ← evalQuery f work.env q (if stepOnce then some 1 else none)
    let settings := work.context.settings
    let r ← if settings.fullColumnNames || !settings.shortColumnNames then do
        let names ← outputNames f work.env q
        pure { r with columns := renameColumns r.columns names }
      else pure r
    return (w, c, r)
  | .insert .. | .update .. | .delete .. =>
    let (w, c) ← c.readSchemas w
    let work := c.work params
    let target := match s with
      | .insert _ _ schema table .. => writeSchema work.catalog schema table
      | .update _ _ schema table .. => writeSchema work.catalog schema table
      | .delete _ schema table .. => writeSchema work.catalog schema table
      | _ => none
    if let some sn := target then
      c.checkWritable sn
      let _ ← c.lockForWrite w [sn]
    let w ← match target with
      | some sn => c.lockForWrite w [sn]
      | none => pure w
    let startChanges := work.context.totalChanges
    let (done, r) ← runRowStatement f work [] none none s
    if done.keys.statement > 0 then throw keyFailure
    if !c.inTransaction && done.keys.pending then throw keyFailure
    let c ← c.absorb before done
    let changed := done.context.totalChanges - startChanges
    let c := { c with context := { c.context with changes := changed } }
    let c := if c.inTransaction then
        { c with keysDeferred := done.keys.deferred, keysPutOff := done.keys.putOff }
      else { c with deferForeignKeys := false }
    let (w, c) ← c.settle w
    return (w, c, r)
  | .createTable .. | .createIndex .. | .createView .. | .createTrigger .. | .drop ..
  | .renameTable .. | .addColumn .. | .renameColumn .. | .dropColumn .. =>
    let (w, c) ← c.readSchemas w
    let work := c.work params
    let done ← match s with
      | .createTable temp ine schema name body text => createTable f work temp ine schema name body text
      | .createIndex unique ine schema name table cols filter text =>
        createIndex f work unique ine schema name table cols filter text
      | .createView temp ine schema name cols q text => createView work temp ine schema name cols q text
      | .createTrigger temp ine schema name time event table cond body text =>
        createTrigger work temp ine schema name time event table cond body text
      | .drop kind ie schema name => dropObject f work kind ie schema name
      | .renameTable schema table newName => renameTable work schema table newName
      | .addColumn schema table col text => addColumn f work schema table col text
      | .renameColumn schema table old new => renameColumn work schema table old new
      | .dropColumn schema table col => dropColumn work schema table col
      | _ => pure work
    let written := done.catalog.schemas.filterMap fun (n, d) =>
      match before.schema? n with
      | some (_, old) => if old.revision != d.revision then some n else none
      | none => none
    let w ← c.lockForWrite w written
    if !c.inTransaction && done.keys.pending then throw keyFailure
    let c ← c.absorb before done
    let c := if c.inTransaction then
        { c with keysDeferred := done.keys.deferred, keysPutOff := done.keys.putOff }
      else { c with deferForeignKeys := false }
    let (w, c) ← c.settle w
    return (w, c, QueryResult.empty)
  | .createVirtual ine schema name module =>
    let (w, c) ← c.readSchemas w
    let sn := ((schema.map (·.text)).bind fun s => (c.schema? s).map (·.name)).getD "main"
    if ine && (((c.schema? sn).map (·.db)).bind (·.findTable name.text)).isSome then
      return (w, c, QueryResult.empty)
    throw (.logic ("no such module: " ++ module.text))
  | .begin kind =>
    if c.inTransaction then throw (.logic "cannot start a transaction within a transaction")
    let c := c.refresh w
    let (w, c) ← if kind == .deferred then pure (w, c) else c.readSchemas w
    let lock := if kind == .exclusive then Lock.exclusive else Lock.reserved
    let w ← if kind == .deferred then pure w
      else c.lockKeys.foldlM (fun w (_, key) =>
        if w.lockByOthers key c.id ≥ (if lock == .exclusive then Lock.shared.rank else Lock.reserved.rank) then
          Except.error SqlError.busy
        else .ok (w.takeLock key c.id lock)) w
    return (w, { c with transaction := some c.schemas, bySavepoint := false }, QueryResult.empty)
  | .commit =>
    if !c.inTransaction then throw (.logic "cannot commit - no transaction is active")
    if c.keysDeferred + c.keysPutOff > 0 then throw keyFailure
    c.lockForCommit w
    let (w, c) := c.finish w true
    return (w, c, QueryResult.empty)
  | .rollback none =>
    if !c.inTransaction then throw (.logic "cannot rollback - no transaction is active")
    let (w, c) := c.finish w false
    return (w, c, QueryResult.empty)
  | .rollback (some sp) =>
    match c.savepoints.findIdx? (sameName ·.1 sp.text) with
    | none => throw (.logic ("no such savepoint: " ++ sp.text))
    | some i =>
      let kept := c.savepoints.drop i
      let snapshot := ((kept.head?).map (·.2)).getD c.schemas
      return (w, { c with schemas := snapshot, savepoints := kept }, QueryResult.empty)
  | .savepoint sp =>
    let (c, w) := if c.inTransaction then (c, w)
      else
        let c := c.refresh w
        ({ c with transaction := some c.schemas, bySavepoint := true }, w)
    return (w, { c with savepoints := (sp.text, c.schemas) :: c.savepoints }, QueryResult.empty)
  | .release sp =>
    match c.savepoints.findIdx? (sameName ·.1 sp.text) with
    | none => throw (.logic ("no such savepoint: " ++ sp.text))
    | some i =>
      let rest := c.savepoints.drop (i + 1)
      if rest.isEmpty && c.bySavepoint then
        if c.keysDeferred + c.keysPutOff > 0 then throw keyFailure
        c.lockForCommit w
        let (w, c) := c.finish w true
        return (w, c, QueryResult.empty)
      return (w, { c with savepoints := rest }, QueryResult.empty)
  | .attach file schema _ =>
    let env := work.env
    let path ← match file with
      | .column [n] => pure n.text
      | e => do pure (((← eval f env e).asText?).getD "")
    let name ← schemaNameOf f env schema
    if c.inTransaction then throw (.logic "cannot ATTACH database within transaction")
    if (c.schema? name).isSome then throw (.logic ("database " ++ name ++ " is already in use"))
    if c.schemas.length ≥ 12 then throw (.logic "too many attached databases - max 10")
    let (place, ro) ← opener w path
    let (d, foreign) := match place with
      | .file key =>
        match w.databases.lookup key, w.texts.lookup key with
        | some d, _ => (d, false)
        | none, some t => (Database.empty 4096 false, !t.isEmpty)
        | none, none => (Database.empty 4096 false, false)
      | p => ((w.load p).getD (Database.empty 4096 false), false)
    let w := match place with
      | .file key => w.makeFile key
      | _ => w
    let a : Attached := ⟨name, place, ro, foreign, d, defaultPageLimit, d.revision⟩
    return (w, { c with schemas := c.schemas ++ [a] }, QueryResult.empty)
  | .detach schema =>
    let name ← schemaNameOf f work.env schema
    match c.schema? name with
    | none => throw (.logic ("no such database: " ++ name))
    | some a =>
      if sameName a.name "main" || sameName a.name "temp" then
        throw (.logic ("cannot detach database " ++ name))
      if c.inTransaction then throw (.logic ("database " ++ name ++ " is locked"))
      return (w, { c with schemas := c.schemas.filter (!sameName ·.name a.name) }, QueryResult.empty)
  | .vacuum schema into =>
    if c.inTransaction then throw (.logic "cannot VACUUM from within a transaction")
    let sn ← match schema with
      | some s =>
        match c.schema? s.text with
        | some a => pure a.name
        | none => throw (.logic ("unknown database " ++ s.text))
      | none => pure "main"
    let (w, c) ← c.readSchemas w
    match into with
    | some _ => return (w, c, QueryResult.empty)
    | none =>
      if sameName sn "temp" then return (w, c, QueryResult.empty)
      c.checkWritable sn
      let w ← c.lockForWrite w [sn]
      let c := c.updateSchema sn fun a =>
        if a.db.pages == 0 then a
        else
          let d := a.db
          let d := { d with pages := d.pagesNeeded }
          { a with db := { d with revision := d.revision + 1 } }
      let (w, c) ← c.settle w
      return (w, c, QueryResult.empty)
  | .analyze target =>
    let (w, c) ← c.readSchemas w
    let jobs : List (String × StatTarget) ← match target with
      | [] => pure ((c.schemas.filter (!sameName ·.name "temp")).map fun a => (a.name, .all))
      | [n] =>
        match c.schema? n.text with
        | some a => pure [(a.name, .all)]
        | none =>
          let searched := (c.schemas.filter (sameName ·.name "temp")) ++
            c.schemas.filter (!sameName ·.name "temp")
          match searched.find? (fun a => (a.db.findIndex n.text).isSome) with
          | some a => pure [(a.name, .index n.text)]
          | none =>
            match c.catalog.relation? none n.text with
            | some (.table sn _) => pure [(sn, .table n.text)]
            | some (.view sn _) => pure [(sn, .table n.text)]
            | some (.master sn) => pure [(sn, .table n.text)]
            | none => throw (.logic ("no such table: " ++ n.text))
      | s :: n :: _ =>
        match c.schema? s.text with
        | none => throw (.logic ("unknown database " ++ s.text))
        | some a =>
          if (a.db.findIndex n.text).isSome then pure [(a.name, .index n.text)]
          else match c.catalog.relation? (some a.name) n.text with
            | some _ => pure [(a.name, .table n.text)]
            | none => throw (.logic ("no such table: " ++ s.text ++ "." ++ n.text))
    let mut world := w
    let mut work := c.work params
    for (sn, t) in jobs do
      c.checkWritable sn
      world ← c.lockForWrite world [sn]
      work := work.change sn (·.analyze t)
      work ← work.settlePages sn
    let c ← c.absorb before work
    let (w, c) ← c.settle world
    return (w, c, QueryResult.empty)
  | .reindex target =>
    let (w, c) ← c.readSchemas w
    match target.getLast? with
    | none => return (w, c, QueryResult.empty)
    | some n =>
      let known := c.schemas.any fun a =>
        (a.db.findTable n.text).isSome || (a.db.findIndex n.text).isSome ||
          (Collation.ofName? n.text).isSome
      if known then return (w, c, QueryResult.empty)
      throw (.logic "unable to identify the object to be reindexed")
  | .pragma schema name arg =>
    let (w, c) ← c.pragma w schema name arg
    let (w, c) ← c.settle w
    return (w, c, QueryResult.empty)

/-- テキストの文を一つずつ走らせる: それぞれを読み、確かめ、引数に結び、進める。
最後の文の行を与える。失敗する文は何も残さず、その前の文はしたことを保つ。 -/
def runText (opener : Opener) (c : Connection) (w : World) (text : String) (args : List Value)
    (stepOnce : Bool) : World × Connection × Except ExecError QueryResult :=
  let start := Cursor.ofText (Text.bytesOf text)
  go (start.tokens.size + 1) start c w QueryResult.empty
where
  /-- 燃料とともに、残った文を走らせる。 -/
  go : Nat → Cursor → Connection → World → QueryResult →
      World × Connection × Except ExecError QueryResult
    | 0, _, c, w, r => (w, c, .ok r)
    | fuel + 1, cur, c, w, r =>
      match Parse.nextStatement.run cur with
      | .error e _ => (w, c, .error (.sql (.ofParse e)))
      | .ok none _ => (w, c, .ok r)
      | .ok (some p) cur' =>
        let c := if c.inTransaction then c else c.refresh w
        let touches := match p.statement with
          | .query q => q.readsTables
          | .insert .. | .update .. | .delete .. => true
          | _ => false
        let checked : Except SqlError Unit := do
          if touches then
            let _ ← c.readSchemas w
          match p.statement with
          | .query _ | .insert .. | .update .. | .delete .. =>
            checkRowStatement evalFuel (c.work #[]) p.statement
          | _ => pure ()
        match checked with
        | .error e => (w, c, .error (.sql e))
        | .ok () =>
          match bindParams p.slots p.slotNames args with
          | .error e => (w, c, .error e)
          | .ok params =>
            match runStatement evalFuel opener c w p.statement params stepOnce with
            | .error e => (w, c, .error (.sql e))
            | .ok (w, c, r) => go fuel cur' c w r

end Connection

end HttpCaching.Sql
