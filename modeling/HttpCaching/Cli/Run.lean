import HttpCaching.Cli.Flags
import HttpCaching.Cli.Describe
import HttpCaching.Log.Console
import HttpCaching.Rules.Config
import HttpCaching.Policy.Opening
/-!
# コマンド行の実行

`cachecontrol` の一回の実行。順に、保管されたポリシーを消す (`-purge`)、要求の
Cache-Control を説明する (`-request`)、応答の Cache-Control を組み立てて説明する
(応答・`-set`・`-delete`・`-rules`・`-db` のどれかがあるとき)、それを保存する (`-save`)、
保管されたポリシーを一覧にする (`-list`)。応答は、規則ファイルの規則と保管された
ポリシーの規則のうち当てはまる最初のものを当て、その後 `-set` と `-delete` を順に当てる。

失敗はそこで止まり、それまでの出力と保管庫の変更は残る。失敗すると標準エラーに
`ERR Failed` の行を書いて終了状態 1 で終わる。規則ファイルを読む途中で落ちたときは
`panic:` の行を書いて終了状態 2。保管庫が開けなければ `FTL` の行を書いて
終了状態 1。旗が読めなければ使い方を書いて終了状態 2、`-h` なら 0。
記録は `-vv` のとき trace から、そうでなければ info から書く。
-/
namespace HttpCaching.Cli

/-- ファイルの中のあるパスにある規則のファイルのテキスト、または読めないわけ:
データベースのファイルは最初のバイトとして読む。 -/
def rulesText (w : Sql.World) (path : String) : Except Rules.LoadError String :=
  match Policy.resolvePath w.isFile (Text.bytesOf path) with
  | .missing => .error (.missing path)
  | .notDirectory => .error (.notDirectory path)
  | .directory => .error (.isDirectory path)
  | .file key =>
    if (w.databases.lookup key).isSome then .ok Policy.tableFileText
    else .ok ((w.texts.lookup key).getD "")

/-- 実行の結果: 終了状態、標準出力、標準エラーの行。 -/
structure Outcome where
  exit : Nat
  stdout : String
  stderr : List String

/-- 実行が失敗したわけ。 -/
inductive Failure where
  | needsStore
  | store (e : Policy.StoreError)
  | rules (e : Rules.LoadError)
  | badPath (path : String) (e : Http.RequestError)
  | directive (e : DirectiveError)

/-- 失敗の文。 -/
def Failure.message : Failure → String
  | .needsStore => "-list, -save and -purge need -db"
  | .store e => e.message
  | .rules e => e.message
  | .badPath path e => "invalid path " ++ path ++ ": " ++ e.message
  | .directive e => e.message

/-- 進んでいる実行: 標準出力に書いた行、記録、保管庫、ファイル。 -/
structure Progress where
  out : List String
  logs : List Log.Entry
  store : Option Policy.Store
  world : Sql.World

/-- 実行の一歩: 失敗しうるが、その前に書いたものと保存したものは残る。 -/
abbrev Step := ExceptT Failure (StateM Progress)

/-- 標準出力に行を書く。 -/
def say (lines : List String) : Step Unit := modify fun p => { p with out := p.out ++ lines }

/-- 記録を足す。 -/
def record (es : List Log.Entry) : Step Unit := modify fun p => { p with logs := p.logs ++ es }

/-- 失敗しうる結果を一歩にしたもの。 -/
def attempt (f : ε → Failure) : Except ε α → Step α
  | .ok a => pure a
  | .error e => throw (f e)

/-- 保管庫があればそれに操作を走らせ、残った保管庫とファイルを持っておく。 -/
def onStore (f : Policy.Store → Sql.World → Policy.Outcome α) : Step (Option α) := do
  let p ← get
  match p.store with
  | none => return none
  | some s =>
    let o := f s p.world
    set { p with store := some o.store, world := o.world }
    return some o.answer

/-- 保管庫の方針。保管庫がなければない。 -/
def storedPolicies : Step (List Policy) := do
  match ← onStore Policy.Store.all with
  | none => return []
  | some l =>
    match l.failure with
    | some e => throw (.store e)
    | none => return l.policies

/-- `-set` の値一つ: `name=value` はテキストを置き、名前だけならディレクティブだけを置く。 -/
def setOperand (arg : String) : String × Operand :=
  let cs := arg.toList
  if cs.contains '=' then
    (String.ofList (cs.takeWhile (· != '=')), .text (String.ofList ((cs.dropWhile (· != '=')).drop 1)))
  else (arg, .bool true)

/-- 応答のディレクティブ: 与えたヘッダーを、要求に当てはまる最初の規則で書き換え、それから `-set`
と `-delete` を一つずつ。 -/
def buildResponse (o : Options) (rules : List Rules.Rule) : Step Directives := do
  let req ← attempt (.badPath o.path) (Http.Request.make o.method o.path Http.Header.empty)
  let h := if o.response.isEmpty then Http.Header.empty
    else Http.Header.empty.set "Cache-Control" o.response
  let w := Rules.applyRules rules 200 req h
  record w.trace
  if let some e := w.failure then throw (.directive e)
  let d := Directives.ofList .response (Field.read (w.header.values "Cache-Control"))
  let d ← o.sets.foldlM (fun d s =>
    let (name, operand) := setOperand s
    attempt .directive (d.set name operand)) d
  o.deletes.foldlM (fun d n => attempt .directive (d.delete n)) d

/-- info の記録。 -/
def info (fields : List (String × Log.Value)) (message : String) : Log.Entry :=
  ⟨.info, fields, message⟩

/-- フラグを読み保管庫を開いた後の、実行の仕事。 -/
def work (o : Options) (rulesText : Except Rules.LoadError String) : Step Unit := do
  let hasStore := (← get).store.isSome
  if (o.list || !o.save.isEmpty || !o.purge.isEmpty) && !hasStore then throw .needsStore
  if !o.purge.isEmpty then
    if let some r ← onStore (·.purge · o.purge) then attempt .store r
    record [info [("prefix", .text o.purge)] "Policy removed"]
  if !o.request.isEmpty then
    say (describeRequest (Directives.ofList .request (Field.read [o.request])))
  if !o.response.isEmpty || !o.sets.isEmpty || !o.deletes.isEmpty || !o.rules.isEmpty ||
      hasStore then
    let fileRules ← if o.rules.isEmpty then pure []
      else do
        let text ← attempt .rules rulesText
        let read ← attempt .rules (Rules.readRulesFile o.rules (some text))
        record (Rules.checkTrace read)
        attempt .rules (Rules.validated read)
    let stored ← storedPolicies
    let d ← buildResponse o (fileRules ++ Rules.ofPolicies stored)
    say (describeResponse d)
    if !o.save.isEmpty then
      if let some r ← onStore (·.put · o.save d.render) then
        let p ← attempt .store r
        record [info [("prefix", .text p.pathPrefix), ("cacheControl", .text p.cacheControl)]
          "Policy saved"]
  if o.list then
    say ((← storedPolicies).map fun p => p.pathPrefix ++ "\t" ++ p.cacheControl)

/-- フラグが名指す保管庫をファイルの中に開く: `-db` がなければない、`memory`
なら共有のメモリ上のデータベース、それ以外は名前が置く表。 -/
def openStore (o : Options) (w : Sql.World) : Sql.World × Option (Except Policy.StoreError Policy.Store) :=
  if o.db.isEmpty then (w, none)
  else
    let (w, r) := Policy.openNamed (if o.db == "memory" then "" else o.db) w
    (w, some r)

/-- 実行が終わるときに残すファイル: 保管庫は閉じ、メモリ上のデータベースはそれとともに消える。 -/
def leave (store : Option Policy.Store) (w : Sql.World) : Sql.World :=
  let w := match store with
    | some s => (s.close w).2
    | none => w
  { w with shared := [] }

/-- ある水準以上の記録の行。どれにもプログラムの版をつける。 -/
def consoleLines (threshold : Log.Level) (es : List Log.Entry) : List String :=
  (es.filter (·.level.rank ≥ threshold.rank)).flatMap fun e =>
    ({ e with fields := e.fields ++ [("version", .text "DEV")] } : Log.Entry).consoleLine.splitOn "\n"

/-- コマンドラインを、引数 (プログラムの名前は含まない) でファイルの上に走らせる。 -/
def run (args : List String) (w : Sql.World) : Sql.World × Outcome :=
  match readFlags Options.initial args with
  | .help => (w, ⟨0, "", usageLines⟩)
  | .bad m => (w, ⟨2, "", m :: usageLines⟩)
  | .options o =>
    let threshold := if o.trace then Log.Level.trace else .info
    match openStore o w with
    | (w, some (.error e)) =>
      (leave none w, ⟨1, "", consoleLines threshold
        [⟨.fatal, [("error", .text e.message)], "Could not open policy store"⟩]⟩)
    | (w, opened) =>
      let store := match opened with
        | some (.ok s) => some s
        | _ => none
      let (result, p) := ((work o (rulesText w o.rules)).run.run ⟨[], [], store, w⟩)
      let w := leave p.store p.world
      let out := String.join (p.out.map (· ++ "\n"))
      match result with
      | .error (.rules (.crashed c)) =>
        (w, ⟨2, out, consoleLines threshold p.logs ++
          ["panic: " ++ c.message ++ " [recovered, repanicked]"]⟩)
      | .error f =>
        (w, ⟨1, out, consoleLines threshold
          (p.logs ++ [⟨.error, [("error", .text f.message)], "Failed"⟩])⟩)
      | .ok _ => (w, ⟨0, out, consoleLines threshold p.logs⟩)

end HttpCaching.Cli
