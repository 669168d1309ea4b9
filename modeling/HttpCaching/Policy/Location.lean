import HttpCaching.Sql.Exec
import HttpCaching.Http.Target
/-!
# 表の場所

保管庫を開く名前から、データベースがどこにあるかを決めて繋ぐ。

1. 名前の `?` (先頭を除く最初のもの) の後は接続の設定で、`&` で区切った `名前=値` の組。
   `;` を含む組があれば誤り、なければ最初の壊れた `%` が誤り。これはファイルに触れる前に
   決まる。
2. 場所を決める (`locate`)。`file:` で始まる名前は URI として読み、そうでない名前は `?` の前
   までをパスとする。URI の `//` の後の権限部は
   空か `localhost`。パスは `?` か `#` の前までで、`%HH` を戻す。問い合わせの `mode` は
   `ro`・`rw`・`rwc`・`memory` で、それまでの mode が許す範囲に限る。`cache` は `shared`・
   `private` で最後のものが効き、`vfs` も最後の値が効く。`immutable` が真なら読むだけ、
   `modeof` の指すファイルはなければならない。
3. メモリ上のデータベースは `:memory:`、空のパス、`mode=memory`、仮想ファイルシステム
   `memdb` のとき。`cache=shared` なら同じパスの接続が一つのデータベースを共有し、`memdb` では
   `/` で始まる名前が共有される。ファイルのパスは字面の上で `.` と `..` を畳む。相対パスは
   作業ディレクトリかその上の一つのファイル、絶対パスは `/tmp` の中のファイルか
   `/dev/null` に限る。ないファイルは `rwc` (既定) のときだけ作る。
4. ファイルを読むときのパスは、部分ごとに実際のディレクトリをたどる。ホストには決まった
   ディレクトリと `/dev/null` (空のファイル) がある。ファイルの後に部分が続けば
   「ディレクトリでない」。
-/
namespace HttpCaching.Policy

open Sql

/-- 表のファイルをどう開いてよいか。 -/
inductive Access where
  | readOnly
  | readWrite
  /-- 読み書きし、なければ作る。 -/
  | create
  deriving DecidableEq, Repr

/-- 共有のメモリ上のデータベースを表す名前。 -/
def sharedMemory : String := "file::memory:?cache=shared"

/-- 表のファイルの最初のバイト。テキストの読み手が要るのはこれだけ: その NUL のバイトのために、
規則のテキストにはならない。 -/
def tableFileText : String := "SQLite format 3\x00"

/-- ホストのディレクトリ。パスで。 -/
def hostDirectories : List String :=
  ["/bin", "/boot", "/dev", "/etc", "/home", "/lib", "/media", "/mnt", "/opt", "/proc", "/root",
    "/run", "/sbin", "/srv", "/sys", "/tmp", "/usr", "/var"]

/-- 空として読めるホストの装置。 -/
def nullDevice : String := "/dev/null"

/-- 新しいファイルを作ってよいホストのディレクトリ。 -/
def scratchDirectory : String := "/tmp"

/-- 作業ディレクトリかその上にあるファイルの鍵: 作業ディレクトリからのパス。 -/
def fileKey (up : Nat) (name : String) : String :=
  String.join (List.replicate up "../") ++ name

/-- ファイルシステムが解決したとき、パスがどこへ行くか。 -/
inductive PathEntry where
  | missing
  /-- ファイルの後に続くパス。 -/
  | notDirectory
  | directory
  /-- ファイル。その鍵で。 -/
  | file (key : String)
  deriving DecidableEq, Repr

/-- パスが通るディレクトリ: 作業ディレクトリかその上のもの、またはパスで言うホストのディレクトリ
(根は空)。 -/
inductive Directory where
  | working (up : Nat)
  | host (path : String)
  deriving DecidableEq, Repr

/-- ホストのディレクトリの親のパス。根は自分の親。 -/
def parentPath (p : String) : String :=
  String.ofList ((p.toList.reverse.dropWhile (· != '/')).drop 1).reverse

/-- パスを解決する一歩: `..` は上り、`.` と空の部分はとどまり、名前はそこでディレクトリかファイルで
なければならない。ファイルの後には何も続かない。作業ディレクトリとその上はディレクトリを持たず、
ファイルは鍵の中のものだけ。 -/
def resolveStep (isFile : String → Bool) : Directory ⊕ PathEntry → List Nat → Directory ⊕ PathEntry
  | .inl d, part =>
    if part.isEmpty || part == [46] then .inl d
    else if part == [46, 46] then
      match d with
      | .working up => .inl (.working (up + 1))
      | .host p => .inl (.host (parentPath p))
    else
      let name := Text.ofUtf8Lossy part
      match d with
      | .working up =>
        let key := fileKey up name
        if isFile key then .inr (.file key) else .inr .missing
      | .host p =>
        let q := p ++ "/" ++ name
        if hostDirectories.contains q then .inl (.host q)
        else if q == nullDevice || isFile q then .inr (.file q)
        else .inr .missing
  | .inr (.file _), _ => .inr .notDirectory
  | .inr e, _ => .inr e

/-- どの鍵がファイルかを与えてパスを解決する: 相対パスは作業ディレクトリから、
絶対パスはホストの根から。 -/
def resolvePath (isFile : String → Bool) (path : List Nat) : PathEntry :=
  if path.isEmpty then .missing
  else
    let start : Directory := if path.head? == some 47 then .host "" else .working 0
    match (path.splitOn 47).foldl (resolveStep isFile) (.inl start) with
    | .inl _ => .directory
    | .inr e => e

/-- データベースを開けなかったわけ。 -/
inductive OpenError where
  | cannotOpen
  /-- 権限、選択、ファイルシステムのどれかが悪い URI の名前。 -/
  | badUri
  /-- 前の方式が許さない開き方。 -/
  | denied
  /-- 見られないファイル。 -/
  | ioFailure
  /-- 読めない接続の設定。問題の文で。 -/
  | badSettings (text : String)

/-- 開くのに失敗したときの文。 -/
def OpenError.message : OpenError → String
  | .cannotOpen => "unable to open database file: out of memory (14)"
  | .badUri => "SQL logic error: out of memory (1)"
  | .denied => "access permission denied: out of memory (3)"
  | .ioFailure => "disk I/O error: out of memory (10)"
  | .badSettings t => t

/-- 接続の設定: `q` の `&` で区切った `name=value` の組を復号したもの。`;` を含む組は誤りで、
ほかより先に出る。そうでなければ最初の壊れた `%` のエスケープが誤り。 -/
def settingPairs (q : List Nat) : Except OpenError (List (List Nat × List Nat)) :=
  let (semicolon, broken, pairs) := (q.splitOn 38).foldl
    (fun (acc : Bool × Option String × List (List Nat × List Nat)) key =>
      let (semicolon, broken, pairs) := acc
      if key.contains 59 then (true, broken, pairs)
      else if key.isEmpty then acc
      else
        match Http.unescapeOctets .query (key.takeWhile (· != 61)),
          Http.unescapeOctets .query ((key.dropWhile (· != 61)).drop 1) with
        | .ok k, .ok v => (semicolon, broken, pairs ++ [(k, v)])
        | .error e, _ => (semicolon, broken.orElse fun _ => some e.text, pairs)
        | .ok _, .error e => (semicolon, broken.orElse fun _ => some e.text, pairs))
    (false, none, [])
  if semicolon then .error (.badSettings "invalid semicolon separator in query")
  else match broken with
    | some e => .error (.badSettings e)
    | none => .ok pairs

/-- 設定の値。順に。 -/
def settingValues (pairs : List (List Nat × List Nat)) (name : String) : List (List Nat) :=
  pairs.filterMap fun (k, v) => if k == Text.bytesOf name then some v else none

/-- 名前の接続の設定: 先頭より後の最初の `?` の後のテキスト。 -/
def settingsText (name : String) : Option (List Nat) :=
  let bs := Text.bytesOf name
  match bs.idxOf? 63 with
  | some (p + 1) => some (bs.drop (p + 2))
  | _ => none

/-- `file:` の URI が権限の後に持つもの: パスと、順に並んだ選択。 -/
structure UriParts where
  path : List Nat
  options : List (List Nat × List Nat)
  deriving Repr

/-- 読んでいる部分の次の止まりまでバイトを落とす (`#` はいつも、パスでは `?`、選択の名前では `=` か
`&`、その値では `&`)。 -/
def skipPart (inPath inName : Bool) : List Nat → List Nat :=
  List.dropWhile fun c =>
    !(c == 35 || (inPath && c == 63) || (inName && (c == 61 || c == 38)) ||
      (!inPath && !inName && c == 38))

/-- 次の `&` までバイトを落とす。`#` の前では止まる。 -/
def skipOption (cs : List Nat) : List Nat :=
  match cs.dropWhile fun c => c != 38 && c != 35 with
  | 38 :: r => r
  | r => r

/-- 読んでいる URI の部分: パス、選択の名前、その名前の後の値。 -/
inductive UriState where
  | path
  | name
  | value (name : List Nat)

/-- URI を権限の後から `#` まで、`%HH` のエスケープを復号して読む: `cur` は読んでいる部分、`parts`
はその前に読んだもの。`%00` はその部分の残りを落とし、名前が空の選択は落とす。 -/
def readUri : Nat → List Nat → UriState → List Nat → UriParts → UriParts
  | 0, _, _, _, parts => parts
  | fuel + 1, cs, st, cur, parts =>
    let finish (st : UriState) (cur : List Nat) (parts : UriParts) : UriParts :=
      match st with
      | .path => { parts with path := cur }
      | .name => if cur.isEmpty then parts else { parts with options := parts.options ++ [(cur, [])] }
      | .value n => { parts with options := parts.options ++ [(n, cur)] }
    match cs with
    | [] => finish st cur parts
    | 35 :: _ => finish st cur parts
    | 37 :: a :: b :: r =>
      match Http.hexValue? a, Http.hexValue? b with
      | some x, some y =>
        if 16 * x + y == 0 then
          let inPath := match st with | .path => true | _ => false
          let inName := match st with | .name => true | _ => false
          readUri fuel (skipPart inPath inName r) st cur parts
        else readUri fuel r st (cur ++ [16 * x + y]) parts
      | _, _ => readUri fuel (a :: b :: r) st (cur ++ [37]) parts
    | c :: r =>
      match st with
      | .path =>
        if c == 63 then readUri fuel r .name [] { parts with path := cur }
        else readUri fuel r st (cur ++ [c]) parts
      | .name =>
        if c == 38 || c == 61 then
          if cur.isEmpty then readUri fuel (if c == 38 then r else skipOption r) .name [] parts
          else if c == 38 then
            readUri fuel r .name [] { parts with options := parts.options ++ [(cur, [])] }
          else readUri fuel r (.value cur) [] parts
        else readUri fuel r st (cur ++ [c]) parts
      | .value n =>
        if c == 38 then
          readUri fuel r .name [] { parts with options := parts.options ++ [(n, cur)] }
        else readUri fuel r st (cur ++ [c]) parts

/-- ファイルをどう開くか: その開き方か、メモリ上か。 -/
inductive OpenMode where
  | access (a : Access)
  | memory
  deriving DecidableEq

/-- 方式の順位。前の方式がこれを許さなければならない: 読む 1、読み書き 2、作る 6、メモリ 0。 -/
def OpenMode.rank : OpenMode → Nat
  | .access .readOnly => 1
  | .access .readWrite => 2
  | .access .create => 6
  | .memory => 0

/-- 方式が後に許す最も高い順位: 自分の順位で、メモリの後ならどの順位でも。 -/
def OpenMode.limit : OpenMode → Nat
  | .memory => 128
  | m => m.rank

/-- URI の選択が求めること: 最後に名指したファイルシステム、開き方、キャッシュを共有するか。 -/
structure UriOptions where
  vfs : Option (List Nat)
  mode : OpenMode
  sharedCache : Bool

/-- URI の選択を順に当てる: どの方式も前の方式が許さなければならない。知らない `mode` や `cache`
の値は誤り。 -/
def applyOptions (o : UriOptions) :
    List (List Nat × List Nat) → Except OpenError UriOptions
  | [] => .ok o
  | (k, v) :: rest =>
    if k == Text.bytesOf "vfs" then applyOptions { o with vfs := some v } rest
    else if k == Text.bytesOf "cache" then
      if v == Text.bytesOf "shared" then applyOptions { o with sharedCache := true } rest
      else if v == Text.bytesOf "private" then applyOptions { o with sharedCache := false } rest
      else .error .badUri
    else if k == Text.bytesOf "mode" then
      let next : Option OpenMode :=
        if v == Text.bytesOf "ro" then some (.access .readOnly)
        else if v == Text.bytesOf "rw" then some (.access .readWrite)
        else if v == Text.bytesOf "rwc" then some (.access .create)
        else if v == Text.bytesOf "memory" then some .memory
        else none
      match next with
      | none => .error .badUri
      | some m =>
        if m.rank > o.mode.limit then .error .denied else applyOptions { o with mode := m } rest
    else applyOptions o rest

/-- `file:` の URI (`file:` の後のテキスト) を読む: 権限が空か `localhost`
であることを確かめてから、パスと選択を。 -/
def parseUri (cs : List Nat) : Except OpenError UriParts :=
  let read (cs : List Nat) := readUri (cs.length + 1) cs .path [] ⟨[], []⟩
  match cs with
  | 47 :: 47 :: r =>
    let authority := r.takeWhile (· != 47)
    if authority.isEmpty || authority == Text.bytesOf "localhost" then
      .ok (read (r.drop authority.length))
    else .error .badUri
  | _ => .ok (read cs)

/-- ある仮想ファイルシステム: ファイルのものと、メモリ上の `memdb`。 -/
def fileSystems : List String := ["unix", "unix-none", "unix-dotfile", "unix-excl"]

/-- 名指したファイルシステムがあれば、それがデータベースをメモリ上に持つかどうか。
知らないものは誤り。 -/
def inMemorySystem : Option (List Nat) → Except OpenError Bool
  | none => .ok false
  | some v =>
    if v == Text.bytesOf "memdb" then .ok true
    else if fileSystems.contains (Text.ofUtf8Lossy v) then .ok false
    else .error .badUri

/-- 相対パスをたどる一歩: `(up, names)` は作業ディレクトリより上の段数と、その下の名前
(最後のものが先頭)。 -/
def walk (acc : Nat × List (List Nat)) (part : List Nat) : Nat × List (List Nat) :=
  let (up, names) := acc
  if part.isEmpty || part == [46] then acc
  else if part == [46, 46] then
    match names with
    | [] => (up + 1, [])
    | _ :: rest => (up, rest)
  else (up, part :: names)

/-- データベースのパスが名指すファイルの鍵。`.` と `..` はテキストとしてたたむ:
作業ディレクトリかその上のファイル、ホストの作業用ディレクトリのファイル、空の装置。ほかのパスには
`none`。 -/
def databaseKey (path : List Nat) : Option String :=
  if path.head? == some 47 then
    let parts := ((path.splitOn 47).foldl
      (fun (names : List (List Nat)) part =>
        if part.isEmpty || part == [46] then names
        else if part == [46, 46] then names.drop 1
        else part :: names) []).reverse.map Text.ofUtf8Lossy
    let full := String.join (parts.map ("/" ++ ·))
    if full == nullDevice then some full
    else match parts with
      | [dir, _] => if "/" ++ dir == scratchDirectory then some full else none
      | _ => none
  else
    match (path.splitOn 47).foldl walk (0, []) with
    | (up, [name]) => some (fileKey up (Text.ofUtf8Lossy name))
    | _ => none

/-- 開くファイル: その鍵、開き方、その URI が求めること。 -/
structure FileTarget where
  key : String
  access : Access
  /-- ファイルが変わらないものとして、読むだけにするかどうか。 -/
  immutable : Bool
  /-- 作るファイルが許可をとるファイルのパス。あるファイルでなければならない。 -/
  modeOf : Option (List Nat)
  deriving DecidableEq, Repr

/-- データベースのある場所。 -/
inductive Location where
  /-- メモリ上のデータベース。`readOnly` なら書き込みを退け、`shared` が名前を言えば同じ名前で呼ぶ接
  続の間で共有する。 -/
  | memory (readOnly : Bool) (shared : Option String)
  | file (f : FileTarget)
  /-- ファイルを開けないパス。`modeOf` が名指すファイルは見る。 -/
  | nowhere (modeOf : Option (List Nat))
  deriving DecidableEq, Repr

/-- 名前がパスのほかにファイルに求めること: 開き方、ファイルシステムがメモリ上のものか、
キャッシュを共有するか、ファイルが変わらないか、許可をとるファイル。 -/
structure Request where
  mode : OpenMode
  inMemory : Bool
  sharedCache : Bool
  immutable : Bool
  modeOf : Option (List Nat)

/-- 求めたとおりに開いたパスの場所。メモリの方式、空のパスか `:memory:` (`ro` なら読むだけ)、
メモリ上のファイルシステム (`ro` か変わらないなら読むだけ) ではメモリ上のデータベース。
ほかはファイルを置けるところのファイルを名指していなければならない。 -/
def pathLocation (path : List Nat) (r : Request) : Location :=
  let name := Text.ofUtf8Lossy path
  let sharedName := if r.sharedCache then some name else none
  if r.mode == .memory then .memory false sharedName
  else if path.isEmpty then .memory (r.mode == .access .readOnly) none
  else if path == Text.bytesOf ":memory:" then .memory (r.mode == .access .readOnly) sharedName
  else if r.inMemory then
    .memory (r.mode == .access .readOnly || r.immutable)
      (if path.head? == some 47 then some ("memdb:" ++ name) else none)
  else
    match databaseKey path, r.mode with
    | some key, .access a => .file ⟨key, a, r.immutable, r.modeOf⟩
    | _, _ => .nowhere r.modeOf

/-- URI の選択の最初の値。 -/
def optionValue (options : List (List Nat × List Nat)) (name : String) : Option (List Nat) :=
  (options.find? (·.1 == Text.bytesOf name)).map (·.2)

/-- `file:` の URI (`file:` の後のテキスト) が名指す場所。 -/
def locateUri (cs : List Nat) : Except OpenError Location := do
  let parts ← parseUri cs
  let o ← applyOptions ⟨none, .access .create, false⟩ parts.options
  let inMemory ← inMemorySystem o.vfs
  let immutable := (optionValue parts.options "immutable").any settingFlag
  return pathLocation parts.path
    ⟨o.mode, inMemory, o.sharedCache, immutable, optionValue parts.options "modeof"⟩

/-- 名前がデータベースを置く場所。設定を先に読む。URI でない名前は、先頭より後の最初の `?`
までの平のパス。 -/
def locate (name : String) : Except OpenError Location := do
  if let some q := settingsText name then
    let _ ← settingPairs q
  let bs := Text.bytesOf name
  if bs.take 5 == Text.bytesOf "file:" then locateUri (bs.drop 5)
  else
    let path := match bs.idxOf? 63 with
      | some (p + 1) => bs.take (p + 1)
      | _ => bs
    return pathLocation path ⟨.access .create, false, false, false, none⟩

/-- 場所を開いて見つかるもの: データベースのある所、書き込みを退けるか、
ファイルがデータベースでないものを持つか。 -/
structure Found where
  place : Place
  readOnly : Bool
  foreign : Bool

/-- ファイルの中で場所を開く。`modeof` が名指すファイルはなければならない。ないファイルを作るのは
`create` のときだけ。変わらないファイルと読むだけで開いたファイルは書き込みを退ける。
作ったファイルがあればそれを加えたファイルを返す。 -/
def connect (w : World) (loc : Location) : Except OpenError (World × Found) := do
  let checkModeOf : Option (List Nat) → Except OpenError Unit
    | none => pure ()
    | some p =>
      match resolvePath w.isFile p with
      | .file _ | .directory => pure ()
      | _ => throw .ioFailure
  match loc with
  | .memory r shared =>
    return (w, ⟨(shared.map Place.shared).getD .memory, r, false⟩)
  | .nowhere m =>
    checkModeOf m
    throw .cannotOpen
  | .file f =>
    checkModeOf f.modeOf
    let ro := f.access == .readOnly || f.immutable
    if f.key == nullDevice then return (w, ⟨.device f.key, ro, false⟩)
    if (w.databases.lookup f.key).isSome then return (w, ⟨.file f.key, ro, false⟩)
    match w.texts.lookup f.key with
    | some text => return (w, ⟨.file f.key, ro, !text.isEmpty⟩)
    | none =>
      if f.access == .create then return (w.makeFile f.key, ⟨.file f.key, ro, false⟩)
      else throw .cannotOpen

/-- `ATTACH` がデータベースを開く方法: `file:` の URI か、
そうでなければテキスト全体をパスとして。 -/
def attachOpener : Opener := fun w path =>
  let bs := Text.bytesOf path
  let located := if bs.take 5 == Text.bytesOf "file:" then locateUri (bs.drop 5)
    else .ok (pathLocation bs ⟨.access .create, false, false, false, none⟩)
  match located >>= connect w with
  | .ok (_, f) => .ok (f.place, f.readOnly)
  | .error _ => .error ⟨14, "unable to open database: " ++ path⟩

end HttpCaching.Policy
