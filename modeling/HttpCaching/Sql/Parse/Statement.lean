import HttpCaching.Sql.Parse.Query
/-!
# 文を読む

文の並びから一つずつ文を読む。空の文 (`;` だけ) は読み飛ばし、文の後には `;` か文字列の
終わりが来る。`EXPLAIN` と `EXPLAIN QUERY PLAN` は文の前に付く。

* 表の定義は列 (名前・型・列の制約) の並びと表の制約の並び、その後に `WITHOUT ROWID` と
  `STRICT` を `,` で並べられる。ほかの語は `unknown table option`。
* 列の既定値は定数の項、符号の付いた項、括弧の中の式、または名前 (文字列として読む)。
* `CHECK` の式は括弧の中の文字列も残し、制約の名になる。
* 表・索引・ビュー・トリガーの定義は名前から文の終わりまでの文字列を残す。
* トリガーの本体の文では、表の名前にスキーマを付けられない。
-/
namespace HttpCaching.Sql

namespace Parse

/-- 衝突の解決の語を読む。 -/
def resolveType : Parse Conflict := do
  if ← eatKw "ROLLBACK" then return .rollback
  if ← eatKw "ABORT" then return .abort
  if ← eatKw "FAIL" then return .fail
  if ← eatKw "IGNORE" then return .ignore
  if ← eatKw "REPLACE" then return .replace
  failHere

/-- あれば、`ON CONFLICT` とその解決を読む。 -/
def onConflict : Parse (Option Conflict) := do
  if (← atKw "ON") && ((← ahead 1).any (·.isKeyword "CONFLICT")) then
    advance
    advance
    return some (← resolveType)
  return none

/-- あれば、`OR` と解決を読む。 -/
def orConflict : Parse (Option Conflict) := do
  if ← eatKw "OR" then return some (← resolveType)
  return none

/-- `ON DELETE` か `ON UPDATE` の後の外部キーの動作を読む。 -/
def keyAction : Parse KeyAction := do
  if ← eatKw "SET" then
    if ← eatKw "NULL" then return .setNull
    expectKw "DEFAULT"
    return .setDefault
  if ← eatKw "CASCADE" then return .cascade
  if ← eatKw "RESTRICT" then return .restrict
  expectKw "NO"
  expectKw "ACTION"
  return .noAction

/-- 外部キーの句、`MATCH name` と `ON` の動作を読む。同じ出来事の後の動作は前のものを置き換え、
`ON INSERT` は何もしない。 -/
def refArgs : Nat → KeyAction → KeyAction → Parse (KeyAction × KeyAction)
  | 0, d, u => pure (d, u)
  | fuel + 1, d, u => do
    if ← eatKw "MATCH" then
      let _ ← nm
      refArgs fuel d u
    else if (← atKw "ON") && ((← ahead 1).any fun t =>
        t.isKeyword "DELETE" || t.isKeyword "UPDATE" || t.isKeyword "INSERT") then
      advance
      let event ← current
      advance
      let a ← keyAction
      match event with
      | some t =>
        if t.isKeyword "DELETE" then refArgs fuel a u
        else if t.isKeyword "UPDATE" then refArgs fuel d a
        else refArgs fuel d u
      | none => refArgs fuel d u
    else pure (d, u)

/-- `DEFERRABLE` の後の `[INITIALLY DEFERRED|IMMEDIATE]` を読む: キーを遅らせるかどうか。 -/
def deferRest : Parse Bool := do
  if ← eatKw "INITIALLY" then
    if ← eatKw "DEFERRED" then return true
    expectKw "IMMEDIATE"
  return false

/-- `REFERENCES` の後の、外部キーが指すものを読む。 -/
def reference (fuel : Nat) : Parse Reference := do
  let table ← nm
  let columns ← if ← eatOp "(" then nameList fuel else pure []
  let (onDelete, onUpdate) ← refArgs fuel .noAction .noAction
  return ⟨table, columns, onDelete, onUpdate⟩

/-- キーか索引の列を読む: 式、その照合順序、その順。 -/
def indexedColumn (fuel : Nat) : Parse IndexedColumn := do
  let e ← expr fuel
  let (e, collation) := match e with
    | .collate inner c => (inner, some c)
    | e => (e, none)
  let descending ← if ← eatKw "DESC" then pure true else do let _ ← eatKw "ASC"; pure false
  if ← eatKw "NULLS" then
    if !(← eatKw "FIRST") then expectKw "LAST"
    failWith "unsupported use of NULLS"
  return ⟨e, collation, descending⟩

/-- あってもよい符号の後の `DEFAULT` の項を読む: リテラル、または `none`。 -/
def defaultTerm : Parse (Option Expr) := do
  match ← current with
  | some t =>
    match t.kind with
    | .integer => advance; return some (.integer t.text)
    | .float => advance; return some (.literal (.real (readNumber t.text.toList).value))
    | .blob => advance; return some (.literal (.blob (blobBytes t.raw)))
    | .string => advance; return some (.literal (.text (Text.ofUtf8 (dequote t.raw))))
    | .keyword "NULL" => advance; return some (.literal .null)
    | .keyword "CURRENT_TIME" | .keyword "CURRENT_DATE" | .keyword "CURRENT_TIMESTAMP" =>
      advance
      return some (.currentTime (match t.kind with | .keyword w => w | _ => ""))
    | _ => return none
  | none => return none

/-- 次にあれば、列の制約を読む。 -/
def columnConstraint (fuel : Nat) : Parse (Option ColumnConstraint) := do
  if ← eatKw "CONSTRAINT" then return some (.named (← nm))
  if ← eatKw "DEFAULT" then
    let start ← here
    if ← eatOp "(" then
      let inner ← here
      let e ← expr fuel
      let text ← spanText inner (← here)
      expectOp ")"
      return some (.defaultValue e text)
    let sign ← if ← eatOp "+" then pure (some true)
      else if ← eatOp "-" then pure (some false) else pure none
    match ← defaultTerm with
    | some e =>
      let text ← spanText start (← lastStop)
      let e := if sign == some false then .unary .negate e else e
      return some (.defaultValue e text)
    | none =>
      if sign.isNone && (← check Token.isId) then
        let t ← take Token.isId
        return some (.defaultValue (.column [t.name]) t.text)
      failHere
  if ← eatKw "NULL" then
    let _ ← onConflict
    return some .nullable
  if ← atKw "NOT" then
    if (← ahead 1).any (·.isKeyword "NULL") then
      advance
      advance
      return some (.notNull (← onConflict))
    if (← ahead 1).any (·.isKeyword "DEFERRABLE") then
      advance
      advance
      let _ ← deferRest
      return some (.deferral false)
    failHere
  if ← eatKw "DEFERRABLE" then
    return some (.deferral (← deferRest))
  if ← eatKw "PRIMARY" then
    expectKw "KEY"
    let descending ← if ← eatKw "DESC" then pure true else do let _ ← eatKw "ASC"; pure false
    let conflict ← onConflict
    let auto ← eatKw "AUTOINCREMENT"
    return some (.primaryKey descending conflict auto)
  if ← eatKw "UNIQUE" then return some (.unique (← onConflict))
  if ← eatKw "CHECK" then
    expectOp "("
    let inner ← here
    let e ← expr fuel
    let text ← spanText inner (← here)
    expectOp ")"
    return some (.check e text)
  if ← eatKw "REFERENCES" then return some (.references (← reference fuel))
  if ← eatKw "COLLATE" then return some (.collate (← ids).text)
  let generated ← if ← eatKw "GENERATED" then
      expectKw "ALWAYS"
      expectKw "AS"
      pure true
    else eatKw "AS"
  if generated then
    expectOp "("
    let e ← expr fuel
    expectOp ")"
    let stored ← match ← current with
      | some t =>
        if t.kind == .bare || (t.isId && !(t.kind == .doubleQuoted || t.kind == .quotedName)) then
          let w := t.raw.map lowerByte
          advance
          if w == Text.bytesOf "stored" then pure true
          else if w == Text.bytesOf "virtual" then pure false
          else failWith "error in generated column"
        else pure false
      | none => pure false
    return some (.generated e stored)
  return none

/-- 列の制約を読む。 -/
def columnConstraints (fuel : Nat) : Nat → Parse (List ColumnConstraint)
  | 0 => pure []
  | n + 1 => do
    match ← columnConstraint fuel with
    | some c => return c :: (← columnConstraints fuel n)
    | none => return []

/-- 列の定義を読む: 名前、型、制約。 -/
def columnDef (fuel : Nat) : Parse ColumnDef := do
  let name ← nm
  let type ← typeName true
  let constraints ← columnConstraints fuel fuel
  return ⟨name, type, constraints⟩

/-- 今の字句が表の制約を始めるかどうか。 -/
def atTableConstraint : Parse Bool := check fun t =>
  t.isKeyword "CONSTRAINT" || t.isKeyword "PRIMARY" || t.isKeyword "UNIQUE" ||
    t.isKeyword "CHECK" || t.isKeyword "FOREIGN"

/-- 表の制約を読む。 -/
def tableConstraint (fuel : Nat) : Parse TableConstraint := do
  if ← eatKw "CONSTRAINT" then return .named (← nm)
  if ← eatKw "PRIMARY" then
    expectKw "KEY"
    expectOp "("
    let columns ← commaList (indexedColumn fuel) fuel
    let auto ← eatKw "AUTOINCREMENT"
    expectOp ")"
    return .primaryKey columns (← onConflict) auto
  if ← eatKw "UNIQUE" then
    expectOp "("
    let columns ← commaList (indexedColumn fuel) fuel
    expectOp ")"
    return .unique columns (← onConflict)
  if ← eatKw "CHECK" then
    expectOp "("
    let inner ← here
    let e ← expr fuel
    let text ← spanText inner (← here)
    expectOp ")"
    let _ ← onConflict
    return .check e text
  expectKw "FOREIGN"
  expectKw "KEY"
  expectOp "("
  let columns ← nameList fuel
  expectKw "REFERENCES"
  let r ← reference fuel
  let deferred ← if ← atKw "NOT" then
      if (← ahead 1).any (·.isKeyword "DEFERRABLE") then
        advance
        advance
        let _ ← deferRest
        pure false
      else pure false
    else if ← eatKw "DEFERRABLE" then deferRest
    else pure false
  return .foreignKey columns r deferred

/-- 最初の後の表の制約を、コンマか何もなしで区切って読む。 -/
def tableConstraintTail (fuel : Nat) : Nat → Parse (List TableConstraint)
  | 0 => pure []
  | n + 1 => do
    if ← eatOp "," then
      let c ← tableConstraint fuel
      return c :: (← tableConstraintTail fuel n)
    if ← atTableConstraint then
      let c ← tableConstraint fuel
      return c :: (← tableConstraintTail fuel n)
    return []

/-- 閉じ括弧まで、列の定義とそれから表の制約を読む。 -/
def tableElements (fuel : Nat) : Nat → Parse (List ColumnDef × List TableConstraint)
  | 0 => failWith "parser stack overflow"
  | n + 1 => do
    let c ← columnDef fuel
    if ← eatOp "," then
      if ← atTableConstraint then
        let first ← tableConstraint fuel
        let rest ← tableConstraintTail fuel fuel
        return ([c], first :: rest)
      let (cs, ts) ← tableElements fuel n
      return (c :: cs, ts)
    return ([c], [])

/-- 表の列の後の選択肢を読む: `WITHOUT ROWID` と `STRICT`。コンマで区切る。 -/
def tableOptions (fuel : Nat) : Parse (Bool × Bool) := do
  if !(← check fun t => t.isKeyword "WITHOUT" || t.isNm) then return (false, false)
  let options ← commaList (do
    if ← eatKw "WITHOUT" then
      let t ← take Token.isNm
      if t.raw.map lowerByte == Text.bytesOf "rowid" then return (true, false)
      failWith ("unknown table option: " ++ t.text)
    let t ← take Token.isNm
    if t.raw.map lowerByte == Text.bytesOf "strict" then return (false, true)
    failWith ("unknown table option: " ++ t.text)) fuel
  return (options.any (·.1), options.any (·.2))

/-- 代入 `name = expr` か `(names) = expr` を、コンマで区切って読む。 -/
def setList (fuel : Nat) : Parse (List Assignment) :=
  commaList (do
    let columns ← if ← eatOp "(" then idList fuel else pure [← nm]
    expectOp "="
    return ⟨columns, ← expr fuel⟩) fuel

/-- あれば、`RETURNING` とその列を読む。 -/
def returning (fuel : Nat) : Parse (List ResultColumn) := do
  if ← eatKw "RETURNING" then return ← commaList (resultColumn fuel) fuel
  return []

/-- `INSERT` の `ON CONFLICT` 句を読む。目標のないものがそれらを終える。 -/
def upserts (fuel : Nat) : Nat → Parse (List Upsert)
  | 0 => pure []
  | n + 1 => do
    if !(← atKw "ON") then return []
    advance
    expectKw "CONFLICT"
    let target ← if ← eatOp "(" then
        let columns ← commaList (indexedColumn fuel) fuel
        expectOp ")"
        let w ← if ← eatKw "WHERE" then some <$> expr fuel else pure none
        pure (some (columns, w))
      else pure none
    expectKw "DO"
    let update ← if ← eatKw "NOTHING" then pure none
      else
        expectKw "UPDATE"
        expectKw "SET"
        let sets ← setList fuel
        let w ← if ← eatKw "WHERE" then some <$> expr fuel else pure none
        pure (some (sets, w))
    let u : Upsert := ⟨target, update⟩
    if target.isNone then return [u]
    return u :: (← upserts fuel n)

/-- トリガーの中の変更の表の名前を読む。そこではスキーマを与えられない。 -/
def triggerTable (inTrigger : Bool) : Parse (Option Name × Name) := do
  let (schema, name) ← qualifiedName
  if inTrigger && schema.isSome then
    failWith ("qualified table names are not allowed on INSERT, UPDATE, and DELETE " ++
      "statements within triggers")
  return (schema, name)

/-- `INDEXED BY` か `NOT INDEXED` を読む。トリガーの文はそれを持てない。 -/
def triggerIndexed (inTrigger : Bool) : Parse Unit := do
  if inTrigger then
    if ← atKw "INDEXED" then
      failWith ("the INDEXED BY clause is not allowed on UPDATE or DELETE statements " ++
        "within triggers")
    if (← atKw "NOT") && ((← ahead 1).any (·.isKeyword "INDEXED")) then
      failWith ("the NOT INDEXED clause is not allowed on UPDATE or DELETE statements " ++
        "within triggers")
  else indexedBy

/-- 共通表の後の `INSERT` か `REPLACE` を読む。 -/
def insertStatement (fuel : Nat) (common : List CommonTable) (inTrigger : Bool) :
    Parse Statement := do
  let conflict ← if ← eatKw "REPLACE" then pure (some Conflict.replace)
    else
      expectKw "INSERT"
      orConflict
  expectKw "INTO"
  let (schema, table) ← triggerTable inTrigger
  let label ← if !inTrigger && (← eatKw "AS") then some <$> nm else pure none
  let columns ← if ← eatOp "(" then some <$> idList fuel else pure none
  if !inTrigger && (← eatKw "DEFAULT") then
    expectKw "VALUES"
    let r ← returning fuel
    return .insert common conflict schema table label columns .defaults [] r
  let q ← query fuel
  let us ← upserts fuel fuel
  let r ← if inTrigger then pure [] else returning fuel
  return .insert common conflict schema table label columns (.query q) us r

/-- 共通表の後の `UPDATE` を読む。 -/
def updateStatement (fuel : Nat) (common : List CommonTable) (inTrigger : Bool) :
    Parse Statement := do
  expectKw "UPDATE"
  let conflict ← orConflict
  let (schema, table) ← triggerTable inTrigger
  let label ← if !inTrigger && (← eatKw "AS") then some <$> nm else pure none
  triggerIndexed inTrigger
  expectKw "SET"
  let sets ← setList fuel
  let source ← if ← eatKw "FROM" then joins fuel else pure []
  let filter ← if ← eatKw "WHERE" then some <$> expr fuel else pure none
  let r ← if inTrigger then pure [] else returning fuel
  return .update common conflict schema table label sets source filter r

/-- 共通表の後の `DELETE` を読む。 -/
def deleteStatement (fuel : Nat) (common : List CommonTable) (inTrigger : Bool) :
    Parse Statement := do
  expectKw "DELETE"
  expectKw "FROM"
  let (schema, table) ← triggerTable inTrigger
  let label ← if !inTrigger && (← eatKw "AS") then some <$> nm else pure none
  triggerIndexed inTrigger
  let filter ← if ← eatKw "WHERE" then some <$> expr fuel else pure none
  let r ← if inTrigger then pure [] else returning fuel
  return .delete common schema table label filter r

/-- 行を変えるか読む文を読む。トリガーの本体が持つ種類のもの。 -/
def rowStatement (fuel : Nat) (common : List CommonTable) (inTrigger : Bool) :
    Parse Statement := do
  if (← atKw "INSERT") || (← atKw "REPLACE") then insertStatement fuel common inTrigger
  else if ← atKw "UPDATE" then updateStatement fuel common inTrigger
  else if ← atKw "DELETE" then deleteStatement fuel common inTrigger
  else if common.isEmpty then return .query (← query fuel)
  else failHere

/-- `END` まで、それぞれ `;` で終わるトリガーの本体の文を読む。 -/
def triggerBody (fuel : Nat) : Nat → Parse (List Statement)
  | 0 => failWith "parser stack overflow"
  | n + 1 => do
    let s ← rowStatement fuel [] true
    expectOp ";"
    if ← atKw "END" then return [s]
    return s :: (← triggerBody fuel n)

/-- あれば、`IF NOT EXISTS` を読む。 -/
def ifNotExists : Parse Bool := do
  if ← eatKw "IF" then
    expectKw "NOT"
    expectKw "EXISTS"
    return true
  return false

/-- あれば、`IF EXISTS` を読む。 -/
def ifExists : Parse Bool := do
  if ← eatKw "IF" then
    expectKw "EXISTS"
    return true
  return false

/-- 名前の始まりから文の終わりまでの定義のテキスト。 -/
def definitionText (nameStart : Nat) : Parse String := do
  spanText nameStart (← lastStop)

/-- 最初の語の後の `CREATE` 文を読む。 -/
def createStatement (fuel : Nat) : Parse Statement := do
  let temp ← check Token.isTemp
  if temp then advance
  if !temp && (← eatKw "VIRTUAL") then
    expectKw "TABLE"
    let ine ← ifNotExists
    let (schema, name) ← qualifiedName
    expectKw "USING"
    let module ← nm
    if ← eatOp "(" then skipGroup fuel 0
    return .createVirtual ine schema name module
  if ← eatKw "TABLE" then
    let ine ← ifNotExists
    let (schema, name) ← qualifiedNameWithStart
    let nameStart := name.2
    if ← eatKw "AS" then
      let q ← query fuel
      return .createTable temp ine schema name.1 (.query q) (← definitionText nameStart)
    expectOp "("
    let (columns, constraints) ← tableElements fuel fuel
    expectOp ")"
    let (withoutRowid, strict) ← tableOptions fuel
    return .createTable temp ine schema name.1 (.columns columns constraints withoutRowid strict)
      (← definitionText nameStart)
  if ← eatKw "VIEW" then
    let ine ← ifNotExists
    let (schema, name) ← qualifiedNameWithStart
    let columns ← if ← eatOp "(" then nameList fuel else pure []
    expectKw "AS"
    let q ← query fuel
    return .createView temp ine schema name.1 columns q (← definitionText name.2)
  if ← eatKw "TRIGGER" then
    let ine ← ifNotExists
    let (schema, name) ← qualifiedNameWithStart
    let time ← if ← eatKw "BEFORE" then pure TriggerTime.before
      else if ← eatKw "AFTER" then pure TriggerTime.after
      else if ← eatKw "INSTEAD" then
        expectKw "OF"
        pure TriggerTime.insteadOf
      else pure TriggerTime.before
    let event ← if ← eatKw "DELETE" then pure TriggerEvent.delete
      else if ← eatKw "INSERT" then pure TriggerEvent.insert
      else
        expectKw "UPDATE"
        if ← eatKw "OF" then pure (TriggerEvent.update (← commaList nm fuel))
        else pure (TriggerEvent.update [])
    expectKw "ON"
    let (ts, tn) ← qualifiedName
    if ← eatKw "FOR" then
      expectKw "EACH"
      expectKw "ROW"
    let condition ← if ← eatKw "WHEN" then some <$> expr fuel else pure none
    expectKw "BEGIN"
    let body ← triggerBody fuel fuel
    expectKw "END"
    return .createTrigger temp ine schema name.1 time event (ts.toList ++ [tn]) condition body
      (← definitionText name.2)
  if temp then failHere
  let unique ← eatKw "UNIQUE"
  expectKw "INDEX"
  let ine ← ifNotExists
  let (schema, name) ← qualifiedNameWithStart
  expectKw "ON"
  let table ← nm
  expectOp "("
  let columns ← commaList (indexedColumn fuel) fuel
  expectOp ")"
  let filter ← if ← eatKw "WHERE" then some <$> expr fuel else pure none
  return .createIndex unique ine schema name.1 table columns filter (← definitionText name.2)
where
  /-- 修飾した名前と、その最後の部分が始まる位置を読む。 -/
  qualifiedNameWithStart : Parse (Option Name × Name × Nat) := do
    let s ← here
    let first ← nm
    if ← eatOp "." then
      let s' ← here
      let second ← nm
      return (some first, second, s')
    return (none, first, s)

/-- プラグマの値を読む: 符号つきの数、名前、または `ON`、`DELETE`、`DEFAULT`。 -/
def pragmaValue : Parse PragmaArg := do
  if ← eatOp "-" then
    let t ← take fun t => t.kind == .integer || t.kind == .float
    return .value t.text true true
  let _ ← eatOp "+"
  match ← current with
  | some t =>
    if t.kind == .integer || t.kind == .float then
      advance
      return .value t.text false true
    if t.isNm then
      advance
      return .value t.name.text false false
    if t.isKeyword "ON" || t.isKeyword "DELETE" || t.isKeyword "DEFAULT" then
      advance
      return .value t.text false false
    failHere
  | none => failHere

/-- `BEGIN`、`COMMIT`、`ROLLBACK` の後の `TRANSACTION` と、あってもよいその名前を読む。 -/
def transactionWord : Parse Unit := do
  if ← eatKw "TRANSACTION" then
    if ← check Token.isNm then advance

/-- 命令を一つ読む。 -/
def command (fuel : Nat) : Parse Statement := do
  match ← current with
  | none => failHere
  | some t =>
    match t.kind with
    | .keyword "SELECT" | .keyword "VALUES" => return .query (← query fuel)
    | .keyword "WITH" =>
      advance
      let _ ← eatKw "RECURSIVE"
      let common ← commaList (commonTable fuel) fuel
      if (← atKw "SELECT") || (← atKw "VALUES") then
        let q ← query fuel
        match q with
        | .mk _ first rest order limit => return .query (.mk common first rest order limit)
      rowStatement fuel common false
    | .keyword "INSERT" | .keyword "REPLACE" | .keyword "UPDATE" | .keyword "DELETE" =>
      rowStatement fuel [] false
    | .keyword "CREATE" =>
      advance
      createStatement fuel
    | .keyword "DROP" =>
      advance
      let kind ← if ← eatKw "TABLE" then pure ObjectKind.table
        else if ← eatKw "INDEX" then pure ObjectKind.index
        else if ← eatKw "VIEW" then pure ObjectKind.view
        else if ← eatKw "TRIGGER" then pure ObjectKind.trigger
        else failHere
      let ie ← ifExists
      let (schema, name) ← qualifiedName
      return .drop kind ie schema name
    | .keyword "ALTER" =>
      advance
      expectKw "TABLE"
      let (schema, table) ← qualifiedName
      if ← eatKw "RENAME" then
        if ← eatKw "TO" then return .renameTable schema table (← nm)
        let _ ← eatKw "COLUMN"
        let old ← nm
        expectKw "TO"
        return .renameColumn schema table old (← nm)
      if ← eatKw "ADD" then
        let _ ← eatKw "COLUMN"
        let start ← here
        let c ← columnDef fuel
        return .addColumn schema table c (← spanText start (← lastStop))
      expectKw "DROP"
      let _ ← eatKw "COLUMN"
      return .dropColumn schema table (← nm)
    | .keyword "BEGIN" =>
      advance
      let kind ← if ← eatKw "DEFERRED" then pure BeginKind.deferred
        else if ← eatKw "IMMEDIATE" then pure BeginKind.immediate
        else if ← eatKw "EXCLUSIVE" then pure BeginKind.exclusive
        else pure BeginKind.deferred
      transactionWord
      return .begin kind
    | .keyword "COMMIT" | .keyword "END" =>
      advance
      transactionWord
      return .commit
    | .keyword "ROLLBACK" =>
      advance
      transactionWord
      if ← eatKw "TO" then
        let _ ← eatKw "SAVEPOINT"
        return .rollback (some (← nm))
      return .rollback none
    | .keyword "SAVEPOINT" =>
      advance
      return .savepoint (← nm)
    | .keyword "RELEASE" =>
      advance
      let _ ← eatKw "SAVEPOINT"
      return .release (← nm)
    | .keyword "ATTACH" =>
      advance
      let _ ← eatKw "DATABASE"
      let file ← expr fuel
      expectKw "AS"
      let schema ← expr fuel
      let key ← if ← eatKw "KEY" then some <$> expr fuel else pure none
      return .attach file schema key
    | .keyword "DETACH" =>
      advance
      let _ ← eatKw "DATABASE"
      return .detach (← expr fuel)
    | .keyword "VACUUM" =>
      advance
      let schema ← if (← check Token.isNm) && !(← atKw "INTO") then some <$> nm else pure none
      let into ← if ← eatKw "INTO" then some <$> expr fuel else pure none
      return .vacuum schema into
    | .keyword "ANALYZE" | .keyword "REINDEX" =>
      advance
      let target ← if ← check Token.isNm then
          let (s, n) ← qualifiedName
          pure (s.toList ++ [n])
        else pure []
      return if t.isKeyword "ANALYZE" then .analyze target else .reindex target
    | .keyword "PRAGMA" =>
      advance
      let first ← current
      let (schema, name) ← qualifiedName
      let schema := schema.map fun n => (n, (first.map Token.text).getD n.text)
      if ← eatOp "=" then return .pragma schema name (← pragmaValue)
      if ← eatOp "(" then
        let v ← pragmaValue
        expectOp ")"
        return .pragma schema name v
      return .pragma schema name .none
    | _ => failHere

/-- テキストから読んだ文。持つパラメーターの枠とその名前をつける。 -/
structure Prepared where
  statement : Statement
  slots : Nat
  slotNames : List (String × Nat)
  deriving Inhabited

/-- 空の文を過ぎる。 -/
def skipEmpty : Nat → Parse Unit
  | 0 => pure ()
  | fuel + 1 => do
    if ← eatOp ";" then skipEmpty fuel

/-- テキストの次の文を、その `;` とともに読む。空の文しか残っていなければなし。 -/
def nextStatement : Parse (Option Prepared) := do
  let c ← get
  set { c with slots := 0, slotNames := [] }
  skipEmpty c.tokens.size
  if (← current).isNone then return none
  let fuel := fuelFor (← get)
  let s ← if ← eatKw "EXPLAIN" then
      let plan ← if ← eatKw "QUERY" then
          expectKw "PLAN"
          pure true
        else pure false
      pure (Statement.explain plan (← command fuel))
    else command fuel
  if (← current).isSome then expectOp ";"
  let c ← get
  return some ⟨s, c.slots, c.slotNames⟩

end Parse

end HttpCaching.Sql
