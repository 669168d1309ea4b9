import HttpCaching.Sql.Connection
/-!
# PRAGMA 文

PRAGMA は接続かデータベースの設定を読み書きする。ここで効くのは次のもの。

* スキーマは接続にあるものに限る (`unknown database`)。知らない名前の PRAGMA は何もしない。
* 定義を読む PRAGMA は、メモリが足りない接続では `out of memory`、データベースでない
  ファイルでは `file is not a database` になる。読んだ後はテキストの符号化が決まる。
* `query_only` は値を真偽として読み、真なら書き込みを拒む。`foreign_keys` も真偽。
  `case_sensitive_like`・`ignore_check_constraints`・`recursive_triggers`・
  `reverse_unordered_selects`・`full_column_names`・`short_column_names` も値を真偽として読み、
  接続の設定を変える。
* `encoding` は新しいデータベースのテキストの符号化を決め、知らない名前は誤り。
  `page_size` は新しいデータベースのページの大きさ (512 から 65536 の 2 の冪) を、
  `max_page_count` は正の値でページ数の上限 (今のページ数より下げない) を、
  `hard_heap_limit` は使えるメモリの上限を決める。
* `foreign_key_check`・`integrity_check`・`quick_check` に表の名前を渡すと、その表がなければ
  誤り。
* `user_version`・`application_id`・`schema_version` を書くのはデータベースへの書き込みで、
  書き込みを拒む接続やデータベースでないファイルでは誤り。
-/
namespace HttpCaching.Sql

/-- 真偽値として読んだ設定: 数はその先頭の数字 (十進、または `0x` の後の十六進) で、
最下位のバイトに保ち、32 ビットに大きすぎる数は零と数える。それ以外は大文字小文字を問わず `on`、
`yes`、`true` (真) か `no`、`off`、`false` (偽) のどれか。ほかのものは偽。 -/
def settingFlag (v : List Nat) : Bool :=
  match v with
  | d :: _ =>
    if isDigitByte d then (leadingNumber v % 256) != 0
    else
      let lower := v.map lowerByte
      lower == Text.bytesOf "on" || lower == Text.bytesOf "yes" || lower == Text.bytesOf "true"
  | [] => false
where
  /-- 先頭の数字が与える数。符号つき 32 ビットの値に収まらなければ零。 -/
  leadingNumber (v : List Nat) : Nat :=
    match v with
    | 48 :: x :: h :: rest =>
      if (x == 120 || x == 88) && isHexByte h then
        let digits := ((h :: rest).dropWhile (· == 48)).takeWhile isHexByte
        let value := digits.foldl (fun n b => 16 * n + hexByteValue b) 0
        if digits.length ≤ 8 && value < 2147483648 then value else 0
      else decimal v
    | _ => decimal v
  /-- 先頭の零の後の十一桁まで。高々十桁で、高々 2147483647。 -/
  decimal (v : List Nat) : Nat :=
    let digits := ((v.dropWhile (· == 48)).takeWhile isDigitByte).take 11
    let value := digits.foldl (fun n b => 10 * n + (b - 48)) 0
    if digits.length > 10 || value > 2147483647 then 0 else value

/-- 符号つき 32 ビットの値として読んだ数: 符号と十進の数字 (先頭の零の後に高々十桁、
その後のテキストは無視する)、または符号なしで `0x` と十六進の数字 (先頭の零の後に高々八桁、
その後には何もない)。 -/
def int32Value? (v : List Nat) : Option Int :=
  let (negative, body) := match v with
    | 45 :: r => (true, r)
    | 43 :: r => (false, r)
    | r => (false, r)
  match v with
  | 48 :: x :: h :: rest =>
    if (x == 120 || x == 88) && isHexByte h then
      let r := (h :: rest).dropWhile (· == 48)
      let digits := r.takeWhile isHexByte
      let value := (digits.take 8).foldl (fun n b => 16 * n + hexByteValue b) 0
      if digits.length ≤ 8 && value < 2147483648 then some value else none
    else decimal negative body
  | _ => decimal negative body
where
  /-- あってもよい符号の後の十進の数字。 -/
  decimal (negative : Bool) (body : List Nat) : Option Int :=
    match body with
    | d :: _ =>
      if !isDigitByte d then none
      else
        let digits := ((body.dropWhile (· == 48)).takeWhile isDigitByte).take 11
        let value : Nat := digits.foldl (fun n b => 10 * n + (b - 48)) 0
        let top : Nat := if negative then 2147483648 else 2147483647
        if digits.length > 10 || value > top then none
        else some (if negative then -(value : Int) else value)
    | [] => none

/-- 64 ビットの整数として読んだテキスト全体: `0x` と先頭の零の後の高々十六桁の十六進の数字
(二の補数の語として読む)、または空白、符号、十進の数字、空白で、符号つきの範囲の内。 -/
def int64Value? (v : List Nat) : Option Int :=
  match v with
  | 48 :: x :: rest =>
    if x == 120 || x == 88 then
      let r := rest.dropWhile (· == 48)
      let digits := r.takeWhile isHexByte
      if digits.length > 16 || digits.length != r.length then none
      else some (Value.ofWord (digits.foldl (fun n b => 16 * n + hexByteValue b) 0))
    else decimal v
  | _ => decimal v
where
  /-- 空白、符号、数字、空白。テキスト全体が一つの数でなければならない。 -/
  decimal (v : List Nat) : Option Int :=
    let isBlank (b : Nat) : Bool := b == 32 || (9 ≤ b && b ≤ 13)
    let r := v.dropWhile isBlank
    let (negative, r) := match r with
      | 45 :: r => (true, r)
      | 43 :: r => (false, r)
      | r => (false, r)
    let digits := r.takeWhile isDigitByte
    let after := r.drop digits.length
    if digits.isEmpty || !after.all isBlank then none
    else
      let value : Nat := digits.foldl (fun n b => 10 * n + (b - 48)) 0
      let top : Nat := if negative then 9223372036854775808 else 9223372036854775807
      if value > top then none
      else some (if negative then -(value : Int) else value)

/-- 先に定義を読むプラグマ。 -/
def schemaPragmas : List String :=
  ["auto_vacuum", "cache_size", "default_cache_size", "foreign_key_check", "foreign_key_list",
    "incremental_vacuum", "index_info", "index_list", "index_xinfo", "integrity_check",
    "journal_mode", "max_page_count", "optimize", "page_count", "quick_check", "stats",
    "synchronous", "table_info", "table_list", "table_xinfo", "wal_checkpoint"]

/-- 行を与えるプラグマ。それぞれ `pragma_` とその名前を名前にした表としても立つ。 -/
def rowPragmas : List String :=
  ["analysis_limit", "application_id", "auto_vacuum", "automatic_index", "busy_timeout",
    "cache_size", "cache_spill", "cell_size_check", "checkpoint_fullfsync", "collation_list",
    "compile_options", "count_changes", "data_version", "database_list", "default_cache_size",
    "defer_foreign_keys", "empty_result_callbacks", "encoding", "foreign_key_check",
    "foreign_key_list", "foreign_keys", "freelist_count", "full_column_names", "fullfsync",
    "function_list", "hard_heap_limit", "ignore_check_constraints", "index_info", "index_list", "index_xinfo",
    "integrity_check", "journal_mode", "journal_size_limit", "legacy_alter_table",
    "locking_mode", "max_page_count", "mmap_size", "module_list", "optimize", "page_count",
    "page_size", "pragma_list", "query_only", "quick_check", "read_uncommitted",
    "recursive_triggers", "reverse_unordered_selects", "schema_version", "secure_delete",
    "short_column_names", "soft_heap_limit", "stats", "synchronous", "table_info", "table_list",
    "table_xinfo", "temp_store", "threads", "trusted_schema", "user_version",
    "writable_schema"]

/-- データベースに与えられるテキストの符号化と、それぞれが UTF-16 かどうか。 -/
def encodings : List (String × Bool) :=
  [("utf8", false), ("utf-8", false), ("utf-16le", true), ("utf-16be", true), ("utf16le", true),
    ("utf16be", true), ("utf-16", true), ("utf16", true)]

/-- 確かめのために名前の表がそこにあるかどうか: 表かビュー、定義の表、またはモジュールかプラグマを表
す表。 -/
def checkableTable (c : Catalog) (schema : Option String) (name : String) : Bool :=
  let lower := String.ofList (name.toList.map foldAscii)
  let byModule := ["json_each", "json_tree", "dbstat"].contains lower ||
    (lower.startsWith "pragma_" && rowPragmas.contains (lower.drop 7).toString)
  byModule || (c.relation? schema name).isSome

/-- プラグマの値のバイト: そのテキスト。負の数なら前にマイナスをつける。 -/
def PragmaArg.bytes? : PragmaArg → Option (List Nat)
  | .none => Option.none
  | .value text negative _ => some ((if negative then [45] else []) ++ Text.bytesOf text)

/-- スキーマの定義が読めることを確かめる。 -/
def Connection.readDefinitions (c : Connection) (schema : String) : Except SqlError Connection := do
  if c.starved then throw (.plain 7)
  if (c.schema? schema).any (·.foreign) then throw (.plain 26)
  return { c with schemaRead := true }

/-- `foreign_key_check` がするように、親の表がある表の外部キーがそれぞれ、
そのキーを名指すことを確かめる。 -/
def checkParentKeys (d : Database) (tables : List Table) : Except SqlError Unit :=
  tables.forM fun t =>
    t.foreignKeys.reverse.forM fun fk =>
      match d.findTable fk.parent with
      | some p => if (fk.parentKey p t).isNone then .error (keyMismatch t.name fk.parent) else .ok ()
      | none => .ok ()

/-- 接続の設定を変える。 -/
def Connection.withSettings (c : Connection) (f : Settings → Settings) : Connection :=
  { c with context := { c.context with settings := f c.context.settings } }

/-- 設定を入れるか切るプラグマがする変更。小文字の名前で。 -/
def settingChange (key : String) (b : Bool) : Option (Settings → Settings) :=
  match key with
  | "case_sensitive_like" => some fun s => { s with caseSensitiveLike := b }
  | "ignore_check_constraints" => some fun s => { s with ignoreChecks := b }
  | "recursive_triggers" => some fun s => { s with recursiveTriggers := b }
  | "reverse_unordered_selects" => some fun s => { s with reverseUnordered := b }
  | "full_column_names" => some fun s => { s with fullColumnNames := b }
  | "short_column_names" => some fun s => { s with shortColumnNames := b }
  | _ => none

/-- 接続でプラグマを走らせる。 -/
def Connection.pragma (c : Connection) (w : World) (schema : Option (Name × String)) (name : Name)
    (arg : PragmaArg) : Except SqlError (World × Connection) := do
  let schemaName ← match schema with
    | none => pure none
    | some (n, raw) =>
      match c.schema? n.text with
      | some a => pure (some a.name)
      | none => throw (.logic ("unknown database " ++ raw))
  let target := schemaName.getD "main"
  let key := String.ofList (name.text.toList.map foldAscii)
  let mut c := c
  if schemaPragmas.contains key then
    c ← c.readDefinitions target
    let _ ← c.lockForRead w [target]
  let a := (c.schema? target).getD Connection.tempSchema
  if let some v := arg.bytes? then
    if let some change := settingChange key (settingFlag v) then
      return (w, c.withSettings change)
  match key, arg.bytes? with
  | "query_only", some v => return (w, { c with queryOnly := settingFlag v })
  | "foreign_keys", some v =>
    if c.inTransaction then return (w, c)
    return (w, { c with foreignKeys := settingFlag v })
  | "defer_foreign_keys", some v =>
    if settingFlag v then return (w, { c with deferForeignKeys := true })
    return (w, { c with deferForeignKeys := false, keysPutOff := 0 })
  | "encoding", some v =>
    let main := (c.schema? "main").getD a
    if c.schemaRead && main.db.pages > 0 then return (w, c)
    match encodings.lookup (String.ofList ((Text.ofUtf8 v).toList.map foldAscii)) with
    | some wide =>
      if main.db.pages > 0 || main.db.encodingFixed then return (w, c)
      return (w, c.updateSchema "main" fun m => { m with db := { m.db with utf16 := wide } })
    | none => throw (.logic ("unsupported encoding: " ++ Text.ofUtf8 v))
  | "page_size", some v =>
    let n := (int32Value? v).getD 0
    if a.db.pages == 0 && [512, 1024, 2048, 4096, 8192, 16384, 32768, 65536].contains n then
      return (w, c.updateSchema target fun s => { s with db := { s.db with pageSize := n.toNat } })
    return (w, c)
  | "max_page_count", some v =>
    match int64Value? v with
    | some x =>
      if x ≤ 0 then return (w, c)
      return (w, c.updateSchema target fun s =>
        { s with pageLimit := max s.db.pages (min x.toNat 4294967294) })
    | none => return (w, c)
  | "hard_heap_limit", some v =>
    match int64Value? v with
    | some n =>
      if n > 0 && (c.heapLimit == 0 || c.heapLimit > n.toNat) then
        return (w, { c with heapLimit := n.toNat })
      return (w, c)
    | none => return (w, c)
  | "foreign_key_check", some v =>
    let table := Text.ofUtf8 v
    match c.catalog.relation? schemaName table with
    | some (.table _ t) => checkParentKeys a.db [t]
    | some (.master _) => return (w, c)
    | _ =>
      if checkableTable c.catalog schemaName table && !(c.catalog.relation? schemaName table matches some (.view ..)) then
        return (w, c)
      throw (.logic ("no such table: " ++ (schemaName.map (· ++ ".")).getD "" ++ table))
    return (w, c)
  | "foreign_key_check", none =>
    checkParentKeys a.db a.db.tables
    return (w, c)
  | "integrity_check", some v | "quick_check", some v =>
    if (int32Value? v).isSome then return (w, c)
    let table := Text.ofUtf8 v
    if checkableTable c.catalog schemaName table then return (w, c)
    throw (.logic ("no such table: " ++ (schemaName.map (· ++ ".")).getD "" ++ table))
  | "user_version", some v | "application_id", some v | "schema_version", some v =>
    if a.readOnly || c.queryOnly then throw .readOnly
    if a.foreign then throw (.plain 26)
    let w ← c.lockForWrite w [target]
    let n := (int32Value? v).getD 0
    let n64 := (int64Value? v).getD 0
    let changed := c.updateSchema target fun s =>
      let d := s.db
      let d := match key with
        | "user_version" => { d with userVersion := n }
        | "application_id" => { d with applicationId := n }
        | _ => { d with schemaVersion := n64 }
      let d := { d with pages := max d.pages 1, encodingFixed := true }
      { s with db := { d with revision := d.revision + 1 } }
    return (w, changed)
  | _, _ => return (w, c)

end HttpCaching.Sql
