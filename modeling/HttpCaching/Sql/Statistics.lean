import HttpCaching.Sql.Define
/-!
# 統計の表

`ANALYZE` はデータベースに統計の表 `sqlite_stat1(tbl,idx,stat)` を作り (なければ)、対象の
表について行を書き直す。

* 対象がデータベース全体なら統計の表の行を全部消し、一つの表ならその表の行、一つの索引なら
  その索引の行を消してから書く。
* 名前が `sqlite_` で始まる表とビューは数えない。
* 行のある索引ごとに一行: 表の名前、索引の名前、そして索引の項目の数と、鍵の先頭から
  一つずつ長くした列ごとの「同じ値の項目の平均の数」(切り上げ。2 で、項目の数の 10 倍が
  異なる値の数の 11 倍以下なら 1)。条件のない索引がなく行がある表には、索引の名前を NULL
  にした一行で行の数を書く。
-/
namespace HttpCaching.Sql

/-- `ANALYZE` がデータベースの中で覆うもの: すべての表、一つの表、または一つの索引。 -/
inductive StatTarget where
  | all
  | table (name : String)
  | index (name : String)
  deriving Inhabited

/-- 統計の表。連番の定義として作る。 -/
def statTable (seq : Nat) : Table :=
  let col (n : String) : Column := ⟨n, "", .blob, .binary, none, none, none, false, none⟩
  ⟨"sqlite_stat1", #[col "tbl", col "idx", col "stat"], none, false, false, false, .abort, [], [],
    [], #[], "sqlite_stat1(tbl,idx,stat)", seq⟩

/-- 並べたキーのうち、最初の `n` 個の値で異なるキーの数。 -/
def distinctPrefixes (colls : List Collation) (n : Nat) (keys : List (List Value)) : Nat :=
  let prefixes := keys.map (·.take n)
  (prefixes.foldl (fun (acc : Option (List Value) × Nat) k =>
    match acc.1 with
    | some prev => if compareRows colls prev k == .eq then acc else (some k, acc.2 + 1)
    | none => (some k, 1)) (none, 0)).2

/-- 索引の統計のテキスト: 項目の数、それからキーのより長い接頭辞それぞれについて、
値を共有する項目の平均の数を切り上げたもの。 -/
def indexStat (t : Table) (ix : Index) : Option String :=
  let entries := t.rows.toList.filter (Index.holds t ix)
  if entries.isEmpty then none
  else
    let colls := ix.parts.map (·.collation)
    let keys := (entries.map fun r => ix.parts.map (KeyPart.valueFor t r)).mergeSort
      fun a b => compareRows colls a b != .gt
    let n := entries.length
    let avgs := (List.range ix.parts.length).map fun i =>
      let d := distinctPrefixes colls (i + 1) keys
      let v := (n + d - 1) / d
      if v == 2 && n * 10 ≤ d * 11 then 1 else v
    some (String.intercalate " " (toString n :: avgs.map toString))

/-- 表の統計の行: 項目のある索引それぞれに一つ、表が索引を保つ順に。表に行があってどの索引も条件を持
てば、表に一つ。 -/
def tableStats (t : Table) (onlyIndex : Option String) : List (Value × Value × Value) :=
  if (String.ofList (t.name.toList.map Char.toLower)).startsWith "sqlite_" then []
  else
    let ordered := t.indexes
    let picked := ordered.filter fun ix => onlyIndex.all (sameName ix.name)
    let perIndex := picked.filterMap fun ix =>
      (indexStat t ix).map fun s => (Value.text t.name, Value.text ix.name, Value.text s)
    let needTable := onlyIndex.isNone && ordered.all (·.filter.isSome) && t.rows.size > 0
    perIndex ++ (if needTable then [(.text t.name, .null, .text (toString t.rows.size))] else [])

/-- データベースを解析する: なければ統計の表を作り、目標が置き換える行を落とし、
覆う表の行を書く。 -/
def Database.analyze (d : Database) (target : StatTarget) : Database :=
  let (d, stat) := match d.findTable "sqlite_stat1" with
    | some t => (d, t)
    | none =>
      let t := statTable d.nextSeq
      (({ d with tables := d.tables ++ [t] }).bump 1, t)
  let kept := stat.rows.filter fun r =>
    match target with
    | .all => false
    | .table n => !(sameName ((r.values.getD 0 .null).asText?.getD "") n)
    | .index n => !(sameName ((r.values.getD 1 .null).asText?.getD "") n)
  let covered : List (Table × Option String) := match target with
    | .all => d.tables.map (·, none)
    | .table n => (d.findTable n).toList.map (·, none)
    | .index n => (d.findIndex n).toList.map fun (t, ix) => (t, some ix.name)
  let rows := covered.flatMap fun (t, only) => tableStats t only
  let stat := rows.foldl (fun (s : Table) (a, b, c) =>
    s.insertRow ⟨s.maxRowid + 1, #[a, b, c]⟩) { stat with rows := kept }
  d.putTable stat

end HttpCaching.Sql
