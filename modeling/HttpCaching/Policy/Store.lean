import HttpCaching.Policy.Canonical
import HttpCaching.Policy.Scan
import HttpCaching.Policy.Location
/-!
# 方針の保管庫

接頭辞ごとに一つの方針を保管する。値は保存の前に正規形にする。中身は接頭辞の昇順
(バイト順) に並ぶ。保管庫はメモリ上のものと表のものの二種類。

表の保管庫は、データベースへの接続で `policies` 表に四つの文を走らせる。

* 保存は `INSERT OR REPLACE` で接頭辞・正規形・書いた時刻を書く。
* 一つを読むのは接頭辞で選んだ最初の行の `cache_control` と `updated_at`、一覧は全部の行を
  接頭辞の順に読む。行の値は `Scan` の決まりで欄に読み出し、`updated_at` も整数として
  読めなければ失敗する。一覧は失敗した行の前までを返す。
* 消すのは `DELETE`。
* 閉じた後の操作は失敗する。閉じると、接続の持つ錠は外れ、コミットしていない変更は消える。

文の誤りはデータベースの誤りとして、操作の名前と接頭辞を前に付けて返す。
-/
namespace HttpCaching.Policy

open Sql

/-- 表の保管庫の後ろにあるデータベースの失敗。 -/
inductive TableError where
  | closed
  | opening (e : OpenError)
  /-- 文が伝える失敗。 -/
  | sql (e : SqlError)
  /-- どの引数も埋めない文の引数。その文で。 -/
  | binding (message : String)
  /-- 欄に読めない値。欄の位置と名前で。 -/
  | scan (column : Nat) (name : String) (problem : ScanProblem)

/-- 表の失敗の文。 -/
def TableError.message : TableError → String
  | .closed => "sql: database is closed"
  | .opening e => e.message
  | .sql e => e.render
  | .binding m => m
  | .scan c n p =>
    "sql: Scan error on column index " ++ toString c ++ ", name " ++ Text.quoteLiteral n ++ ": " ++
      p.message

/-- 文を走らせる失敗を表の失敗にしたもの。 -/
def TableError.ofExec : ExecError → TableError
  | .sql e => .sql e
  | .binding m => .binding m

/-- 保管庫の操作が失敗したわけ。 -/
inductive StoreError where
  | invalid (e : Invalid)
  | storing (pathPrefix : String) (e : TableError)
  | reading (pathPrefix : String) (e : TableError)
  | listing (e : TableError)
  | scanning (e : TableError)
  | purging (pathPrefix : String) (e : TableError)
  | creatingTable (e : TableError)

namespace StoreError

/-- 保管庫の失敗の文。 -/
def message : StoreError → String
  | .invalid e => e.message
  | .storing p e => "storing policy for " ++ Text.quoteLiteral p ++ ": " ++ e.message
  | .reading p e => "reading policy for " ++ Text.quoteLiteral p ++ ": " ++ e.message
  | .listing e => "listing policies: " ++ e.message
  | .scanning e => "scanning policy: " ++ e.message
  | .purging p e => "purging policy for " ++ Text.quoteLiteral p ++ ": " ++ e.message
  | .creatingTable e => "creating policies table: " ++ e.message

/-- 保管庫の失敗の種類: 正しくない方針ならそのディレクティブの種類。 -/
def kind : StoreError → ErrorKind
  | .invalid e => e.cause.kind
  | _ => .other

end StoreError

/-- 方針をしまっておく場所。 -/
inductive Store where
  /-- メモリ上。接頭辞のバイト順に並び、同じ接頭辞は二度ない。 -/
  | memory (policies : List Policy)
  /-- データベースの表 `policies` に、接続を通して。 -/
  | table (connection : Connection)
  deriving Inhabited

/-- 保管庫の操作が残すもの: 保管庫、ファイル、その答え。 -/
structure Outcome (α : Type) where
  store : Store
  world : World
  answer : α

/-- 接頭辞の順のすべての方針と、一覧を止めた失敗 (あれば)。失敗の前に読んだ方針は残る。 -/
structure Listing where
  policies : List Policy
  failure : Option StoreError

/-- 方針を保存する文。 -/
def putText : String :=
  "INSERT OR REPLACE INTO policies (prefix, cache_control, updated_at) VALUES (?, ?, ?)"

/-- 接頭辞の方針を読む文。 -/
def getText : String := "SELECT cache_control, updated_at FROM policies WHERE prefix = ?"

/-- すべての方針を読む文。 -/
def allText : String := "SELECT prefix, cache_control, updated_at FROM policies ORDER BY prefix"

/-- 接頭辞の方針を除く文。 -/
def purgeText : String := "DELETE FROM policies WHERE prefix = ?"

/-- 書き込みが保存する更新時刻: 書き込みの時計の値。どの答えも、
それが整数であること以上は見せない。 -/
def writeTime : Int := 1750000000

/-- 結果の列の名前。 -/
def columnName (r : QueryResult) (i : Nat) : String := ((r.columns[i]?).map (·.name)).getD ""

/-- 行の欄を読む: テキストと整数をその位置で読み、読めない最初の値で失敗する。 -/
def scanRow (r : QueryResult) (row : Array Value) (texts : List Nat) (integers : List Nat) :
    Except TableError (List String) := do
  let width := max ((texts.foldl max 0) + 1) ((integers.foldl max 0) + 1)
  let mut out := []
  for i in List.range width do
    let v := row.getD i .null
    if texts.contains i then
      match scanText v with
      | .ok s => out := out ++ [s]
      | .error p => throw (.scan i (columnName r i) p)
    else if integers.contains i then
      match scanInt64 v with
      | .ok _ => pure ()
      | .error p => throw (.scan i (columnName r i) p)
  return out

namespace Store

/-- 接頭辞のバイト順に並んだ列に方針を入れる。同じ接頭辞の方針は置き換える。 -/
def insertPolicy (p : Policy) : List Policy → List Policy
  | [] => [p]
  | x :: xs =>
    if x.pathPrefix == p.pathPrefix then p :: xs
    else if Text.bytesBefore p.pathPrefix x.pathPrefix then p :: x :: xs
    else x :: insertPolicy p xs

end Store

/-! ## 表の上の操作

表の保管庫の操作は、データベースに文を一つ走らせてその答えを読むだけで、データベースについて
知っているのはそれを走らせる関数 `run` だけ: 状態・文・引数・一度だけ進めるかから、後の状態と、
行かその失敗を返す。 -/

namespace Table

variable {σ : Type} (run : σ → String → List Value → Bool → σ × Except TableError QueryResult)

/-- 方針を確かめ、その正規形を保存して、保存したものを返す。 -/
def put (db : σ) (pathPrefix text : String) : σ × Except StoreError Policy :=
  match canonicalize text with
  | .error e => (db, .error (.invalid e))
  | .ok canonical =>
    let (db, r) := run db putText [.text pathPrefix, .text canonical, .integer writeTime] true
    (db, match r with
      | .ok _ => .ok ⟨pathPrefix, canonical⟩
      | .error e => .error (.storing pathPrefix e))

/-- ちょうどこの接頭辞の方針。 -/
def get (db : σ) (pathPrefix : String) : σ × Except StoreError (Option Policy) :=
  let (db, r) := run db getText [.text pathPrefix] true
  (db, match r with
    | .error e => .error (.reading pathPrefix e)
    | .ok r =>
      match r.rows.head? with
      | none => .ok none
      | some row =>
        match scanRow r row [0] [1] with
        | .ok fields => .ok (some ⟨pathPrefix, fields.headD ""⟩)
        | .error e => .error (.reading pathPrefix e))

/-- 行を順に、読めないものが出るまで読む。 -/
def scanAll (r : QueryResult) : List (Array Value) → List Policy × Option StoreError
  | [] => ([], none)
  | row :: rows =>
    match scanRow r row [0, 1] [2] with
    | .error e => ([], some (.scanning e))
    | .ok fields =>
      let (ps, e) := scanAll r rows
      (⟨fields.headD "", fields.getD 1 ""⟩ :: ps, e)

/-- 接頭辞の順のすべての方針。 -/
def all (db : σ) : σ × Listing :=
  let (db, r) := run db allText [] false
  (db, match r with
    | .error e => ⟨[], some (.listing e)⟩
    | .ok r =>
      let (ps, e) := scanAll r r.rows
      ⟨ps, e⟩)

/-- 接頭辞の方針を除く。ないものは誤りでない。 -/
def purge (db : σ) (pathPrefix : String) : σ × Except StoreError Unit :=
  let (db, r) := run db purgeText [.text pathPrefix] true
  (db, r.map (fun _ => ()) |>.mapError (.purging pathPrefix))

end Table

/-- 表の保管庫の接続に文を走らせる。閉じた接続は何も走らせない。 -/
def runConnection (db : Connection × World) (text : String) (args : List Value) (stepOnce : Bool) :
    (Connection × World) × Except TableError QueryResult :=
  if db.1.closed then (db, .error .closed)
  else
    let (w, c, r) := db.1.runText attachOpener db.2 text args stepOnce
    ((c, w), r.mapError TableError.ofExec)

/-- 表の保管庫の接続への操作の結果。 -/
def Outcome.ofTable (o : (Connection × World) × α) : Outcome α := ⟨.table o.1.1, o.1.2, o.2⟩

namespace Store

/-- 方針を確かめ、その正規形を保存して、保存したものを返す。 -/
def put (s : Store) (w : World) (pathPrefix text : String) : Outcome (Except StoreError Policy) :=
  match s with
  | .memory ps =>
    match canonicalize text with
    | .error e => ⟨s, w, .error (.invalid e)⟩
    | .ok canonical =>
      let p : Policy := ⟨pathPrefix, canonical⟩
      ⟨.memory (insertPolicy p ps), w, .ok p⟩
  | .table c => .ofTable (Table.put runConnection (c, w) pathPrefix text)

/-- ちょうどこの接頭辞の方針。 -/
def get (s : Store) (w : World) (pathPrefix : String) : Outcome (Except StoreError (Option Policy)) :=
  match s with
  | .memory ps => ⟨s, w, .ok (ps.find? (·.pathPrefix == pathPrefix))⟩
  | .table c => .ofTable (Table.get runConnection (c, w) pathPrefix)

/-- 接頭辞の順のすべての方針。 -/
def all (s : Store) (w : World) : Outcome Listing :=
  match s with
  | .memory ps => ⟨s, w, ⟨ps, none⟩⟩
  | .table c => .ofTable (Table.all runConnection (c, w))

/-- 接頭辞の方針を除く。ないものは誤りでない。 -/
def purge (s : Store) (w : World) (pathPrefix : String) : Outcome (Except StoreError Unit) :=
  match s with
  | .memory ps => ⟨.memory (ps.filter (·.pathPrefix != pathPrefix)), w, .ok ()⟩
  | .table c => .ofTable (Table.purge runConnection (c, w) pathPrefix)

/-- 表の保管庫を閉じる: 接続が確定していないものは捨て、ロックは放す。 -/
def close (s : Store) (w : World) : Store × World :=
  match s with
  | .memory _ => (s, w)
  | .table c =>
    if c.closed then (s, w)
    else
      let (w, c) := c.finish w false
      (.table { c with closed := true }, w)

end Store

end HttpCaching.Policy
