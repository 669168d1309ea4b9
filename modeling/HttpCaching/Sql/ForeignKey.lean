import HttpCaching.Sql.Scope
/-!
# 外部キー

外部キーが有効なとき、子の表の行のキーは親の表の行を指す。キーに NULL があれば何も指さなくて
よい。

* 親のキーは、一列で親の整数の主キー (行番号) を指すか、同じ列数の一意で条件のない索引で、
  列がキーの列と名前で対応し、照合が列の既定のものであるもの。列の名前がなければ親の主キー。
  見つからなければ `foreign key mismatch - "子" referencing "親"`、親の表がなければ
  `no such table: スキーマ.親`。これらは文を準備するときの誤り。
* 違反は数える。子の行を書けば、親がなければ一つ増やす。子の行を消せば、数が零でなく、親が
  なかった行なら一つ減らす。親の行を消せば、それを指す子の行の数だけ増やし、親の行を書けば、
  数が零でなければ指す子の行の数だけ減らす。
* 数は、すぐ見るキーの分は文ごと、遅らせるキー (と `defer_foreign_keys` の間のすべて) の分は
  トランザクションごと。文の終わりに文の分が正なら、自動コミットでは終わりにトランザクションの
  分も正なら、`FOREIGN KEY constraint failed`。`COMMIT` もトランザクションの分が正なら失敗し、
  トランザクションは続く。
* 親の行と子の行は、親の列の親和性と子の列の親和性から決まる比べ方と、親の列の照合で比べる。
  行番号を指すキーは子の値を整数として読み、読めなければ親はない。
-/
namespace HttpCaching.Sql

/-- 外部キーが親の行を見つける方法: 子の列が持つ行番号で、または一意な索引で。
その部分を子の列と組にする (親の列、子の列)。 -/
inductive ParentKey where
  | rowid (child : Nat)
  | index (ix : Index) (pairs : List (Nat × Nat))
  deriving Inhabited

/-- 文が扱う外部キーの違反の数。 -/
structure KeyCounts where
  /-- 外部キーを守るかどうか。 -/
  on : Bool
  /-- どのキーもコミットまで待つかどうか (`defer_foreign_keys`)。 -/
  deferAll : Bool
  /-- 文の終わりに確かめるキーの違反。 -/
  statement : Int
  /-- コミットで確かめる、遅らせるキーの違反。 -/
  deferred : Int
  /-- `defer_foreign_keys` が先送りした、ほかのキーの違反。 -/
  putOff : Int
  deriving Inhabited

namespace KeyCounts

/-- 遅らせるかどうかを問わず、キーの違反を数える。 -/
def add (k : KeyCounts) (deferredKey : Bool) (n : Int) : KeyCounts :=
  if k.deferAll then { k with putOff := k.putOff + n }
  else if deferredKey then { k with deferred := k.deferred + n }
  else { k with statement := k.statement + n }

/-- キーの種類の違反が一つも数えられていないかどうか。そうなら一つ除くことは意味がない。 -/
def none (k : KeyCounts) (deferredKey : Bool) : Bool :=
  if deferredKey then k.deferred + k.putOff == 0 else k.statement == 0 && k.putOff == 0

/-- 違反がコミットで待っているかどうか。 -/
def pending (k : KeyCounts) : Bool := k.deferred + k.putOff > 0

end KeyCounts

/-- 外部キー制約の失敗。 -/
def keyFailure : SqlError := ⟨787, "FOREIGN KEY constraint failed"⟩

/-- `ON DELETE RESTRICT` か `ON UPDATE RESTRICT` の失敗。 -/
def restrictFailure : SqlError := ⟨1811, "FOREIGN KEY constraint failed"⟩

/-- 文の中で識別子として引用符で囲んだ名前: 二重引用符は二重にする。 -/
def identifierText (s : String) : String :=
  String.ofList (s.toList.flatMap fun c => if c == '"' then ['"', '"'] else [c])

/-- 親のどのキーも名指さない外部キーの失敗。 -/
def keyMismatch (child parent : String) : SqlError :=
  .logic ("foreign key mismatch - \"" ++ identifierText child ++ "\" referencing \"" ++
    identifierText parent ++ "\"")

namespace ForeignKey

/-- 表の中の外部キーの列の位置。 -/
def childColumns (fk : ForeignKey) (child : Table) : List Nat :=
  fk.columns.filterMap child.columnIndex?

/-- 外部キーが名指す親のキー: 一つの列が親の整数の主キーを名指す (か、何も名指さず親がそれを持つ)
なら行番号、それ以外は、列が名指したものである条件のない最初の一意な索引
(何も名指さなければ主キー)。 -/
def parentKey (fk : ForeignKey) (parent child : Table) : Option ParentKey :=
  let cols := fk.childColumns child
  let n := fk.columns.length
  let byRowid : Option ParentKey :=
    if n == 1 then
      match parent.rowidAlias with
      | some i =>
        match fk.parentColumns with
        | [] => some (.rowid (cols.headD 0))
        | [k] =>
          if sameName ((parent.columns[i]?.map (·.name)).getD "") k then some (.rowid (cols.headD 0))
          else none
        | _ => none
      | none => none
    else none
  byRowid.orElse fun _ =>
    parent.indexes.findSome? fun ix =>
      if ix.parts.length != n || !ix.unique || ix.filter.isSome then none
      else if fk.parentColumns.isEmpty then
        if ix.primary then
          ((ix.parts.zip cols).mapM fun (pc : KeyPart × Nat) => pc.1.column.map (·, pc.2)).map (.index ix)
        else none
      else
        (ix.parts.mapM fun (p : KeyPart) => do
          let pc ← p.column
          let col : Column ← parent.columns[pc]?
          if p.collation != col.collation then none
          let j ← fk.parentColumns.findIdx? (sameName · col.name)
          let cc ← cols[j]?
          some (pc, cc)).map (.index ix)

/-- 行の値が外部キーに NULL を残すかどうか。そのときは親が要らない。 -/
def hasNull (fk : ForeignKey) (child : Table) (vals : Array Value) : Bool :=
  (fk.childColumns child).any fun c => (vals.getD c .null).isNull

end ForeignKey

namespace ParentKey

/-- 子の値が名指す行を親の表が持つかどうか。`self` は親の表自身に挿入している行で、
自分を名指しうる。 -/
def found (key : ParentKey) (parent : Table) (childVals : Array Value) (self : Option Row) : Bool :=
  match key with
  | .rowid c =>
    match Value.withAffinity .numeric (childVals.getD c .null) with
    | .integer n => self.any (·.rowid == n) || parent.rows.any (·.rowid == n)
    | _ => false
  | .index ix pairs =>
    let selfMatch := self.any fun r => pairs.all fun (pc, cc) =>
      let pv := r.values.getD pc .null
      !pv.isNull && Value.compare .binary (childVals.getD cc .null) pv == .eq
    selfMatch || parent.rows.any fun r =>
      (ix.parts.zip pairs).all fun (part, (pc, cc)) =>
        let col := parent.columns.getD pc default
        let v := Value.withAffinity col.affinity (childVals.getD cc .null)
        let pv := r.values.getD pc .null
        !pv.isNull && Value.compare part.collation pv v == .eq

/-- キーの組: 親の列 (行番号ならなし) と子の列。 -/
def pairs : ParentKey → List (Option Nat × Nat)
  | .rowid c => [(none, c)]
  | .index _ ps => ps.map fun (p, c) => (some p, c)

/-- 子の行がキーによって親の行を名指すかどうか。 -/
def names (key : ParentKey) (parent child : Table) (parentRow : Row) (childRow : Row) : Bool :=
  key.pairs.all fun (pc, cc) =>
    let ccol := child.columns.getD cc default
    let (pv, aff, coll) := match pc with
      | some p =>
        let pcol := parent.columns.getD p default
        (parentRow.values.getD p .null, pcol.affinity, pcol.collation)
      | none => (Value.integer parentRow.rowid, Affinity.integer, ccol.collation)
    let cmp := comparisonAffinity (some aff) (some ccol.affinity)
    match Value.comparison .eq cmp coll pv (childRow.values.getD cc .null) with
    | .integer 1 => true
    | _ => false

/-- 親の行を名指す子の表の行。`skipSelf` が成り立てば同じ番号の行を除く。 -/
def referring (key : ParentKey) (parent child : Table) (parentRow : Row) (skipSelf : Bool) :
    List Row :=
  child.rows.toList.filter fun r =>
    !(skipSelf && r.rowid == parentRow.rowid) && key.names parent child parentRow r

end ParentKey

/-- データベースの中で表を指す、ほかの表 (と表自身) の外部キー。新しいものが先頭で、
それぞれに子の表をつける。 -/
def Database.referencesTo (d : Database) (name : String) : List (Table × ForeignKey) :=
  d.tables.reverse.flatMap fun t =>
    (t.foreignKeys.reverse.filter (sameName ·.parent name)).map (t, ·)

end HttpCaching.Sql
