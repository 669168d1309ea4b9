import HttpCaching.Sql.Define
/-!
# 接続と、接続が共有するもの

データベースはファイル、名前で共有されるメモリ、接続だけのメモリのどれかに置かれる。
ファイルと共有のメモリは `World` に置かれ、接続はそれぞれ自分の写しで文を走らせる。

* 自動コミットでは、文の前に `World` から読み直し、文が成功すれば書いたデータベースを
  `World` に書き戻す。失敗した文の変更は残らない。
* `BEGIN` から `COMMIT` までの変更は、その接続だけに見える。`ROLLBACK` は `BEGIN` の時の
  写しに戻す。`SAVEPOINT` は名前ごとに写しを取り、外側のものがトランザクションを始める。
* ファイルの錠: 読むトランザクションは共有の錠、書くトランザクションは予約の錠を持つ。
  `BEGIN EXCLUSIVE` は排他の錠を持つ。他の接続が排他の錠を持てば読めず、予約か排他の錠を
  持てば書けず、共有以上の錠を持てば書いたものをコミットできない。どれも
  `database is locked` になる。
* temp のデータベースと接続だけのメモリは、錠も書き戻しも要らない。
-/
namespace HttpCaching.Sql

/-- データベースを置く所。 -/
inductive Place where
  /-- その接続だけが見るメモリ。 -/
  | memory
  /-- 名前で接続どうしが共有するメモリ。 -/
  | shared (name : String)
  /-- ファイル。そのキーで。 -/
  | file (key : String)
  /-- 空として読め、書いたものを残せない装置。 -/
  | device (key : String)
  deriving DecidableEq, Inhabited, Repr

/-- 接続がファイルに持つ錠。 -/
inductive Lock where
  | shared
  | reserved
  | exclusive
  deriving DecidableEq, Inhabited, Repr

/-- 錠の強さ。 -/
def Lock.rank : Lock → Nat
  | .shared => 1
  | .reserved => 2
  | .exclusive => 3

/-- 接続が扱うファイルと共有のデータベースと、それらが持つ錠: データベースを持つファイル、
ほかのバイトを持つファイル、メモリの共有のデータベース、ファイルとそれを持つ接続ごとの錠。 -/
structure World where
  databases : List (String × Database)
  texts : List (String × String)
  shared : List (String × Database)
  locks : List (String × Nat × Lock)
  nextConnection : Nat
  deriving Inhabited

namespace World

/-- ファイルのない世界。 -/
def empty : World := ⟨[], [], [], [], 1⟩

/-- キーにファイルがあるかどうか。 -/
def isFile (w : World) (key : String) : Bool :=
  (w.databases.lookup key).isSome || (w.texts.lookup key).isSome

/-- キーにテキストのファイルを置く。そこにファイルがあれば置かない。 -/
def makeFile (w : World) (key : String) : World :=
  if w.isFile key then w else { w with texts := w.texts ++ [(key, "")] }

/-- ある接続以外の接続がファイルに持つ最も強い錠。 -/
def lockByOthers (w : World) (key : String) (me : Nat) : Nat :=
  (w.locks.filter fun (k, owner, _) => k == key && owner != me).foldl
    (fun n (_, _, l) => max n l.rank) 0

/-- 接続がファイルに持つ錠。 -/
def lockOf (w : World) (key : String) (me : Nat) : Nat :=
  (w.locks.filter fun (k, owner, _) => k == key && owner == me).foldl
    (fun n (_, _, l) => max n l.rank) 0

/-- 接続のために錠をとる。持っているより強い錠は保つ。 -/
def takeLock (w : World) (key : String) (me : Nat) (l : Lock) : World :=
  if w.lockOf key me ≥ l.rank then w
  else { w with locks := (w.locks.filter fun (k, owner, _) => !(k == key && owner == me)) ++ [(key, me, l)] }

/-- 接続の錠をすべて落とす。 -/
def releaseLocks (w : World) (me : Nat) : World :=
  { w with locks := w.locks.filter fun (_, owner, _) => owner != me }

/-- コミットしたデータベースをその場所に保存する。 -/
def store (w : World) (p : Place) (d : Database) : World :=
  match p with
  | .memory => w
  | .shared name =>
    { w with shared := (w.shared.filter (·.1 != name)) ++ [(name, d)] }
  | .file key =>
    { w with databases := (w.databases.filter (·.1 != key)) ++ [(key, d)],
             texts := w.texts.filter (·.1 != key) }
  | .device _ => w

/-- 場所にあれば、そこのコミットしたデータベース。 -/
def load (w : World) (p : Place) : Option Database :=
  match p with
  | .memory => none
  | .shared name => w.shared.lookup name
  | .file key => w.databases.lookup key
  | .device _ => none

end World

/-- 接続から見たデータベース: スキーマの名前、置く所、書き込みを拒むかどうか、
ファイルがデータベースでないものを持つかどうか、中身、持てるページの最大、最後にコミットした版。 -/
structure Attached where
  name : String
  place : Place
  readOnly : Bool
  foreign : Bool
  db : Database
  pageLimit : Nat
  committed : Nat
  deriving Inhabited

/-- 接続がデータベースにコミットしていない変更を持つかどうか。 -/
def Attached.dirty (a : Attached) : Bool := a.db.revision != a.committed

/-- 場所の錠のキー。錠のない場所ではなし。 -/
def Place.lockKey : Place → Option String
  | .file key => some key
  | .shared name => some ("memory:" ++ name)
  | .device key => some key
  | .memory => none

/-- 接続: 番号、データベース (main、temp、それから付け加えたもの)、開いたトランザクションの状態、
セーブポイント、設定。 -/
structure Connection where
  id : Nat
  schemas : List Attached
  /-- 開いたトランザクションが始まったときのデータベース。自動コミットではなし。 -/
  transaction : Option (List Attached)
  /-- 開いたトランザクションをセーブポイントで始めたかどうか。 -/
  bySavepoint : Bool
  /-- セーブポイント。新しいものが先頭で、それぞれの時点のデータベースをつける。 -/
  savepoints : List (String × List Attached)
  queryOnly : Bool
  /-- 接続が持てるメモリのバイト数。零は上限なし。 -/
  heapLimit : Nat
  /-- 定義を読んだかどうか。読めば新しいファイルのテキストの符号化が決まる。 -/
  schemaRead : Bool
  foreignKeys : Bool
  /-- トランザクションが終わるまで、どの外部キーもコミットまで待つかどうか。 -/
  deferForeignKeys : Bool
  /-- コミットを待つ外部キーの違反: 遅らせるキーのものと、`defer_foreign_keys`
  が先送りしたキーのもの。 -/
  keysDeferred : Int
  keysPutOff : Int
  context : CallContext
  closed : Bool
  deriving Inhabited

namespace Connection

/-- 開いて最初のページを使っている接続が持つメモリ: これより下のヒープの上限では、
ファイルを読む余地がない。 -/
def memoryInUse : Nat := 75000

/-- ヒープの上限がページを読むのに少なすぎるメモリしか残さないかどうか。 -/
def starved (c : Connection) : Bool := c.heapLimit != 0 && c.heapLimit < memoryInUse

/-- temp のデータベース。 -/
def tempSchema : Attached :=
  ⟨"temp", .memory, false, false, Database.empty 4096 false, defaultPageLimit, 0⟩

/-- 場所の main のデータベースへの新しい接続。 -/
def start (id : Nat) (main : Attached) : Connection :=
  ⟨id, [main, tempSchema], none, false, [], false, 0, false, false, false, 0, 0,
    ⟨0, 0, 0, Settings.initial⟩, false⟩

/-- 文から見たデータベース。 -/
def catalog (c : Connection) : Catalog := ⟨c.schemas.map fun a => (a.name, a.db)⟩

/-- 文が残したデータベースをとる。 -/
def withCatalog (c : Connection) (cat : Catalog) : Connection :=
  { c with schemas := c.schemas.map fun a =>
    match cat.schema? a.name with
    | some (_, d) => { a with db := d }
    | none => a }

/-- スキーマの名前の付け加えたデータベース。 -/
def schema? (c : Connection) (name : String) : Option Attached :=
  c.schemas.find? (sameName ·.name name)

/-- スキーマの名前の付け加えたデータベースを変える。 -/
def updateSchema (c : Connection) (name : String) (f : Attached → Attached) : Connection :=
  { c with schemas := c.schemas.map fun a => if sameName a.name name then f a else a }

/-- スキーマのページの上限。 -/
def pageLimits (c : Connection) : List (String × Nat) := c.schemas.map fun a => (a.name, a.pageLimit)

/-- 文が始める仕事。 -/
def work (c : Connection) (params : Array Value) : Work :=
  ⟨c.catalog, c.context, params, [], c.pageLimits,
    ⟨c.foreignKeys, c.deferForeignKeys, 0, c.keysDeferred, c.keysPutOff⟩⟩

/-- 接続がトランザクションの中かどうか。 -/
def inTransaction (c : Connection) : Bool := c.transaction.isSome

/-- 接続が変えていないデータベースについて、ほかの接続がコミットしたものを読み直す。 -/
def refresh (c : Connection) (w : World) : Connection :=
  { c with schemas := c.schemas.map fun a =>
    if a.dirty then a
    else match w.load a.place with
      | some d =>
        let d := { d with revision := a.db.revision }
        { a with db := d, foreign := false }
      | none => a }

/-- 変えたデータベースを世界に書き、コミットした印をつける。 -/
def commitTo (c : Connection) (w : World) : World × Connection :=
  let w := c.schemas.foldl (fun w a => if a.dirty then w.store a.place a.db else w) w
  (w, { c with schemas := c.schemas.map fun a => { a with committed := a.db.revision } })

/-- 接続が扱うデータベースの錠のキー。 -/
def lockKeys (c : Connection) : List (String × String) :=
  c.schemas.filterMap fun a => a.place.lockKey.map (a.name, ·)

/-- 接続が名指したスキーマを読めることを確かめる: ほかの接続が排他の錠を持たない。
トランザクションの中では接続が共有の錠をとる。 -/
def lockForRead (c : Connection) (w : World) (names : List String) : Except SqlError World :=
  (c.lockKeys.filter fun (n, _) => names.any (sameName · n)).foldlM (fun w (_, key) =>
    if w.lockByOthers key c.id ≥ Lock.exclusive.rank then .error .busy
    else if c.inTransaction then .ok (w.takeLock key c.id .shared)
    else .ok w) w

/-- 接続が名指したスキーマに書けることを確かめる: ほかの接続が予約か排他の錠を持たない。
トランザクションの中では接続が予約の錠をとる。 -/
def lockForWrite (c : Connection) (w : World) (names : List String) : Except SqlError World :=
  (c.lockKeys.filter fun (n, _) => names.any (sameName · n)).foldlM (fun w (_, key) =>
    if w.lockByOthers key c.id ≥ Lock.reserved.rank then .error .busy
    else if c.inTransaction then .ok (w.takeLock key c.id .reserved)
    else .ok w) w

/-- 接続が書いたものをコミットできることを確かめる: ほかの接続がそれらのファイルに錠を持たず、
どれも書き込みを残せない装置でない。 -/
def lockForCommit (c : Connection) (w : World) : Except SqlError Unit :=
  (c.schemas.filter (·.dirty)).forM fun a =>
    match a.place.lockKey with
    | some key =>
      if w.lockByOthers key c.id ≥ Lock.shared.rank then .error .busy
      else match a.place with
        | .device _ => .error (.plain 1034)
        | _ => .ok ()
    | none => .ok ()

/-- 開いたトランザクションを終え、変更を保つか落とし、錠を落とす。 -/
def finish (c : Connection) (w : World) (keep : Bool) : World × Connection :=
  let c := if keep then c else
    match c.transaction with
    | some snapshot => { c with schemas := snapshot }
    | none => c
  let (w, c) := if keep then c.commitTo w else (w, c)
  (w.releaseLocks c.id, { c with
    transaction := none, bySavepoint := false, savepoints := [], deferForeignKeys := false,
    keysDeferred := 0, keysPutOff := 0 })

end Connection

end HttpCaching.Sql
