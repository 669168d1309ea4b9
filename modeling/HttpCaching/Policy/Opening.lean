import HttpCaching.Policy.Store
/-!
# 保管庫を開く

名前から接続を作り、設定を当て、方針の表を作る。

1. 名前の場所を決めて繋ぐ (`locate`, `connect`)。ないファイルはここで作られ、後の段が
   失敗しても残る。
2. 設定の `_pragma` の値を順に `pragma` 文として走らせ、次に最初の `_time_format` が空で
   なければ `sqlite` でなければならず、そうならそこで終わる。そうでなければ最初の
   `_txlock` が空でなければ `deferred`・`immediate`・`exclusive` (大文字小文字は問わない)
   でなければならない。
3. `CREATE TABLE IF NOT EXISTS policies` を走らせる。

どの段の失敗も「表を作れなかった」失敗で、失敗した接続は捨てられる (錠は外れ、コミット
していない変更は消える)。先に走った文がコミットしたものは残る。

保管庫を通さずに行を書く接続も、同じ名前から同じ手順 (表を作る段を除く) で開く。
-/
namespace HttpCaching.Policy

open Sql

/-- 方針の表を作る文。 -/
def createText : String :=
  "CREATE TABLE IF NOT EXISTS policies (\n\t\tprefix TEXT PRIMARY KEY,\n\t\tcache_control TEXT NOT NULL,\n\t\tupdated_at INTEGER\n\t)"

/-- 値ごとの `pragma` の文を順に走らせる。最初の失敗で止まる。 -/
def runPragmas (c : Connection) (w : World) :
    List (List Nat) → World × Except TableError Connection
  | [] => (w, .ok c)
  | v :: rest =>
    let (w, c, r) := c.runText attachOpener w (Text.ofUtf8 (Text.bytesOf "pragma " ++ v)) [] true
    match r with
    | .error e => (w, .error (.ofExec e))
    | .ok _ => runPragmas c w rest

/-- 名前の接続の設定を当てる: どの `_pragma` も文として走らせ、それから最初の `_time_format`
が空でなければ知られたものでなければならず、知られていれば設定はそこで終わる。そうでなければ最初の
`_txlock` が空でなければ、知られたものでなければならない。 -/
def applySettings (query : Option (List Nat)) (c : Connection) (w : World) :
    World × Except TableError Connection :=
  match query with
  | none => (w, .ok c)
  | some q =>
    match settingPairs q with
    | .error e => (w, .error (.opening e))
    | .ok pairs =>
      match runPragmas c w (settingValues pairs "_pragma") with
      | (w, .error e) => (w, .error e)
      | (w, .ok c) =>
        let timeFormat := ((settingValues pairs "_time_format").head?).getD []
        if !timeFormat.isEmpty then
          if timeFormat != Text.bytesOf "sqlite" then
            (w, .error (.opening (.badSettings ("unknown _time_format " ++ Text.quoteOctets timeFormat))))
          else (w, .ok c)
        else
          match (settingValues pairs "_txlock").head? with
          | some v =>
            if !v.isEmpty && !([Text.bytesOf "deferred", Text.bytesOf "immediate",
                Text.bytesOf "exclusive"].contains (v.map lowerByte)) then
              (w, .error (.opening (.badSettings ("unknown _txlock " ++ Text.quoteOctets v))))
            else (w, .ok c)
          | none => (w, .ok c)

/-- 接続を捨てる: 確定していないものは失われ、ロックは放される。 -/
def dropConnection (c : Connection) (w : World) : World := (c.finish w false).1

/-- 名前が置くデータベースへの接続を開く。番号は前の接続の後で、名前の設定を当てる。
空の名前は共有のメモリ上のデータベース。 -/
def openConnection (name : String) (w : World) : World × Except TableError Connection :=
  let name := if name.isEmpty then sharedMemory else name
  match locate name >>= connect w with
  | .error e => (w, .error (.opening e))
  | .ok (w, f) =>
    let db := (w.load f.place).getD (Database.empty 4096 false)
    let main : Attached := ⟨"main", f.place, f.readOnly, f.foreign, db, defaultPageLimit, db.revision⟩
    let c := Connection.start w.nextConnection main
    let w := { w with nextConnection := w.nextConnection + 1 }
    match applySettings (settingsText name) c w with
    | (w, .error e) => (dropConnection c w, .error e)
    | (w, .ok c) => (w, .ok c)

/-- 名前が置く表の保管庫を開く。表がなければ作る。 -/
def openNamed (name : String) (w : World) : World × Except StoreError Store :=
  match openConnection name w with
  | (w, .error e) => (w, .error (.creatingTable e))
  | (w, .ok c) =>
    let (w, c', r) := c.runText attachOpener w createText [] true
    match r with
    | .error e => (dropConnection c' w, .error (.creatingTable (.ofExec e)))
    | .ok _ => (w, .ok (.table c'))

/-- 名前が置くデータベースの取っ手を、表を作らない表の保管庫として開く:
保管庫の裏で行を書くものが使う。 -/
def openDirect (name : String) (w : World) : World × Except StoreError Store :=
  match openConnection name w with
  | (w, .error e) => (w, .error (.creatingTable e))
  | (w, .ok c) => (w, .ok (.table c))

/-- 方針の表に、値を確かめずに与えたとおりの行を書く。その接頭辞の行は置き換える。
失敗すれば元のまま、メモリ上の保管庫はそのまま。 -/
def Store.writeRow (s : Store) (w : World) (pathPrefix cacheControl : String) (updatedAt : Value) :
    Store × World :=
  match s with
  | .memory _ => (s, w)
  | .table c =>
    if c.closed then (s, w)
    else
      let (w, c, _) :=
        c.runText attachOpener w putText [.text pathPrefix, .text cacheControl, updatedAt] true
      (.table c, w)

end HttpCaching.Policy
