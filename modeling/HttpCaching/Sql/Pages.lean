import HttpCaching.Sql.Eval
/-!
# データベースのページ

データベースのファイルはページに分かれる。一ページ目は定義の表の根で、表ごとに本体の木、
索引ごとに索引の木が、それぞれ少なくとも一ページを使う。

- 行は記録として置かれる。記録は頭部 (自身の長さと各欄の型の番号) と各欄の中身からなり、
  テキストは UTF-8 か UTF-16 のバイト数、バイト列はその長さ、整数は大きさに応じて 0〜8
  バイト、実数は 8 バイトを使う。行番号の別名の列は記録では NULL になる。
- 一つの葉のセルに収まらない記録は、先頭の一部だけを葉に置き、残りをあふれページの鎖に
  置く。葉に置く長さはページの大きさから決まる上限と下限で定まる。
- 葉は順にセルを詰め、入らなければ次の葉に移る。葉が二つ以上なら、その上に内部の
  ページを重ねる。定義の表の最初の葉は、ファイルの頭部の 100 バイトを除いた残り。
- ファイルのページ数は減らない (`VACUUM` を除く)。書き込みのあと必要なページ数が、今の
  ページ数と接続が許すページ数の両方を超えるなら、その書き込みは失敗する。
-/
namespace HttpCaching.Sql

/-- 数が可変長の整数としてとるバイト: 最初の八バイトのそれぞれに七ビット、九バイト目に八ビット。 -/
def varintSize (n : Nat) : Nat :=
  match (List.range 8).find? fun k => n < Nat.pow 2 (7 * (k + 1)) with
  | some k => k + 1
  | none => 9

/-- 整数の欄の型の符号と、その本体のバイト: 零と一は要らず、ほかはそれを持つ 1、2、3、4、6、8
バイトの最も少ないもの。 -/
def integerField (i : Int) : Nat × Nat :=
  if i == 0 then (8, 0)
  else if i == 1 then (9, 0)
  else
    let u : Nat := if i < 0 then (-(i + 1)).toNat else i.toNat
    if u ≤ 127 then (1, 1)
    else if u ≤ 32767 then (2, 2)
    else if u ≤ 8388607 then (3, 3)
    else if u ≤ 2147483647 then (4, 4)
    else if u ≤ 140737488355327 then (5, 6)
    else (6, 8)

/-- UTF-16 のテキストのバイト: 基本面の文字ごとに二、ほかは四。 -/
def utf16Size (s : String) : Nat :=
  s.toList.foldl (fun n c =>
    n + if c.toNat < 0x10000 || (Text.standsFor? c).isSome then 2 else 4) 0

/-- ファイルが保つテキストのバイト。 -/
def textSize (utf16 : Bool) (s : String) : Nat :=
  if utf16 then utf16Size s else Text.byteLength s

/-- 保存した値の型の符号と本体の大きさ。 -/
def valueField (utf16 : Bool) : Value → Nat × Nat
  | .null => (0, 0)
  | .integer i => integerField i
  | .real _ => (7, 8)
  | .text s =>
    let n := textSize utf16 s
    (13 + 2 * n, n)
  | .blob bs => (12 + 2 * bs.length, bs.length)

/-- 記録の大きさ: 自分の大きさと型の符号を持つヘッダー、それから本体。 -/
def recordSize (fields : List (Nat × Nat)) : Nat :=
  let codes := fields.foldl (fun n f => n + varintSize f.1) 0
  let header :=
    if codes ≤ 126 then codes + 1
    else
      let h := codes + varintSize codes
      if varintSize codes < varintSize h then h + 1 else h
  header + fields.foldl (fun n f => n + f.2) 0

/-- ファイルのページの配置: ページの大きさと、テキストを UTF-16 で保つかどうか。 -/
structure Layout where
  pageSize : Nat
  utf16 : Bool
  deriving Inhabited, Repr

namespace Layout

/-- 長い中身のうちセルに保つ最小のバイト。 -/
def minLocal (f : Layout) : Nat := (f.pageSize - 12) * 32 / 255 - 23

/-- セルが保つ最大を与えて、セルに保つ中身のバイトと、残りのあふれのページ。 -/
def spill (f : Layout) (maxLocal n : Nat) : Nat × Nat :=
  if n ≤ maxLocal then (n, 0)
  else
    let usable := f.pageSize - 4
    let surplus := f.minLocal + (n - f.minLocal) % usable
    let kept := if surplus ≤ maxLocal then surplus else f.minLocal
    (kept, (n - kept + usable - 1) / usable)

/-- 表の葉の中の行のセルの大きさと、それが要るあふれのページ。 -/
def rowCell (f : Layout) (rowid : Int) (payload : Nat) : Nat × Nat :=
  let (kept, spilled) := f.spill (f.pageSize - 35) payload
  let pointer := if spilled > 0 then 4 else 0
  (max 4 (varintSize payload + varintSize (Value.toWord rowid) + kept + pointer), spilled)

/-- 索引の葉の中のキーのセルの大きさと、それが要るあふれのページ。 -/
def keyCell (f : Layout) (payload : Nat) : Nat × Nat :=
  let (kept, spilled) := f.spill ((f.pageSize - 12) * 64 / 255 - 23) payload
  (max 4 (varintSize payload + kept + (if spilled > 0 then 4 else 0)), spilled)

/-- セルが順に埋める葉。最初の葉は `reserved` バイトを使って始まる: 葉はどれも、
八バイトのヘッダーを除いたページを持ち、セルはポインターのためにさらに二バイトとる。 -/
def leafCount (f : Layout) (reserved : Nat) (cells : List Nat) : Nat :=
  let room := f.pageSize - 8
  (cells.foldl (fun (count, used) c =>
    if used + c + 2 ≤ room || used == 0 then (count, used + c + 2) else (count + 1, c + 2))
    (1, reserved)).1

/-- この数の葉を持つ木のページ。内部のページはどれも `fanout` の子を持つ。 -/
def treePages (fanout : Nat) : Nat → Nat → Nat
  | 0, leaves => leaves
  | fuel + 1, leaves =>
    if leaves ≤ 1 then leaves
    else leaves + treePages fanout fuel ((leaves + fanout - 1) / fanout)

/-- セルの木が、あふれのページとともにとるページ。
内部のページはそれぞれ `entry` バイトの子を持つ。 -/
def cellTree (f : Layout) (reserved entry : Nat) (cells : List (Nat × Nat)) : Nat :=
  let fanout := max 2 ((f.pageSize - 12) / (entry + 2))
  treePages fanout 64 (f.leafCount reserved (cells.map (·.1))) +
    cells.foldl (fun n c => n + c.2) 0

/-- 行番号の順の、表の行の木のページ。 -/
def rowTree (f : Layout) (rows : List (Int × List Value)) : Nat :=
  let sorted := rows.mergeSort fun a b => a.1 ≤ b.1
  let cells := sorted.map fun (rowid, vs) => f.rowCell rowid (recordSize (vs.map (valueField f.utf16)))
  let top := (rows.map (·.1)).foldl max 0
  f.cellTree 0 (4 + varintSize (Value.toWord top)) cells

/-- キーの順に与えた、索引のキーの木のページ。 -/
def keyTree (f : Layout) (keys : List (List Value)) : Nat :=
  let cells := keys.map fun vs => f.keyCell (recordSize (vs.map (valueField f.utf16)))
  f.cellTree 0 (4 + (cells.map (·.1)).foldl max 0) cells

end Layout

/-- 行がその記録に保つ値: 行番号の列は NULL として、仮想の生成列は除いて。 -/
def Table.recordValues (t : Table) (r : Row) : List Value :=
  (t.columns.toList.zip r.values.toList).zipIdx.filterMap fun ((c, v), i) =>
    if t.rowidAlias == some i then some .null
    else match c.generated with
      | some (_, false) => none
      | _ => some v

/-- 行の値が表の列を表す枠。 -/
def Table.rowFrame (t : Table) (r : Row) : Frame :=
  ⟨[⟨t.name, none, t.sourceColumns, !t.withoutRowid, t.name⟩], [⟨r.values, some r.rowid⟩], [], none⟩

/-- 行に対する索引のキーの部分の値。 -/
def KeyPart.valueFor (t : Table) (r : Row) (p : KeyPart) : Value :=
  match p.column with
  | some c => r.values.getD c .null
  | none =>
    match eval evalFuel ⟨default, #[], default, [t.rowFrame r], [], false, none⟩ p.term with
    | .ok v => v
    | .error _ => .null

/-- 索引が行を持つかどうか: 部分索引は条件が真の行を持つ。 -/
def Index.holds (t : Table) (ix : Index) (r : Row) : Bool :=
  match ix.filter with
  | none => true
  | some c =>
    match eval evalFuel ⟨default, #[], default, [t.rowFrame r], [], false, none⟩ c with
    | .ok v => v.truth? == some true
    | .error _ => false

/-- 索引が行に保つキー: その部分、それから行番号、または行番号のない表では、
その中にない主キーの列。 -/
def Index.keyFor (t : Table) (ix : Index) (r : Row) : List Value :=
  let parts := ix.parts.map (KeyPart.valueFor t r)
  if t.withoutRowid then
    match t.primaryIndex with
    | some pk =>
      if ix.primary then
        parts ++ ((t.columns.toList.zipIdx.filter fun (_, i) =>
          !(pk.parts.any (·.column == some i))).map fun (_, i) => r.values.getD i .null)
      else
        parts ++ ((pk.parts.filter fun p => !(ix.parts.any (·.column == p.column))).map
          (KeyPart.valueFor t r))
    | none => parts
  else parts ++ [.integer r.rowid]

/-- 表がその索引とともにとるページ。 -/
def Table.pages (f : Layout) (t : Table) : Nat :=
  let rows := t.rows.toList
  let body :=
    if t.withoutRowid then
      match t.primaryIndex with
      | some pk => f.keyTree (rows.map (Index.keyFor t pk))
      | none => 1
    else f.rowTree (rows.map fun r => (r.rowid, t.recordValues r))
  let indexes := t.indexes.filter fun ix => !(t.withoutRowid && ix.primary)
  body + indexes.foldl (fun n ix =>
    let keys := (rows.filter (Index.holds t ix)).map (Index.keyFor t ix)
    let colls := ix.parts.map (·.collation)
    n + f.keyTree (keys.mergeSort fun a b => compareRows colls a b != .gt)) 0

/-- 定義の表のページ: その最初の葉は、ファイルのヘッダーの後の最初のページ。 -/
def Database.schemaPages (f : Layout) (d : Database) : Nat :=
  let rows := masterRows d
  let cells := rows.map fun r =>
    f.rowCell ((r.rowid).getD 0) (recordSize (r.values.toList.map (valueField f.utf16)))
  f.cellTree 100 (4 + varintSize rows.length) cells

/-- データベースのファイルの配置。 -/
def Database.layout (d : Database) : Layout := ⟨d.pageSize, d.utf16⟩

/-- データベースが持つもののために要るページ。 -/
def Database.pagesNeeded (d : Database) : Nat :=
  let f := d.layout
  d.schemaPages f + d.tables.foldl (fun n t => n + t.pages f) 0

/-- ファイルが `pages` ページのデータベースが、ページの上限のもとで持つものを持つまで大きくなれるか
どうか。 -/
def Database.fits (d : Database) (limit : Nat) : Bool :=
  let needed := d.pagesNeeded
  needed ≤ d.pages || needed ≤ limit

/-- ファイルを要るページまで大きくしたデータベース。 -/
def Database.grown (d : Database) : Database := { d with pages := max d.pages d.pagesNeeded }

end HttpCaching.Sql
