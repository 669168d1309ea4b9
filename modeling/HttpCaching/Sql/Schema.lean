import HttpCaching.Sql.Error
/-!
# データベースの中身

データベースは表・ビュー・トリガーの定義と、表の行を持つ。表は列、主キー、一意の索引、
CHECK 制約を持ち、行は行番号の順 (行番号のない表では主キーの順) に並ぶ。

* 名前は ASCII の大文字小文字を問わずに比べる。表・ビュー・索引の名前は一つの
  データベースの中で重ならない。
* 行番号の別名になるのは、型がちょうど `INTEGER` で降順でない一列の主キー。ほかの主キーと
  一意の制約は、名前 `sqlite_autoindex_表_番号` の索引になる。同じ列の一意の索引は一つに
  まとめる。
* 索引の並びは新しいものが前。衝突を `REPLACE` で解く索引は、そうでない索引の後に置く。
* データベースは利用者の版、アプリケーションの番号、ページの大きさ、テキストの符号化、
  ファイルのページ数も持つ。
-/
namespace HttpCaching.Sql

/-- 索引のキーの部分: 位置による列か式。照合順序と順をつける。 -/
structure KeyPart where
  column : Option Nat
  term : Expr
  collation : Collation
  descending : Bool
  deriving Inhabited

/-- 表の索引: 名前、キーの部分、キーが一意かどうか、衝突の解決のしかた、主キーかどうか、条件、
それを作った文 (制約が作ったならなし)、定義の順での位置。 -/
structure Index where
  name : String
  parts : List KeyPart
  unique : Bool
  conflict : Conflict
  primary : Bool
  filter : Option Expr
  text : Option String
  seq : Nat
  deriving Inhabited

/-- 表の列。 -/
structure Column where
  name : String
  /-- 書いたとおりの宣言した型。なければ空。 -/
  type : String
  affinity : Affinity
  collation : Collation
  /-- 列が NOT NULL のとき NULL をどう解決するか。 -/
  notNull : Option Conflict
  defaultValue : Option Expr
  defaultText : Option String
  primaryKey : Bool
  /-- 生成列の式と、保存するかどうか。 -/
  generated : Option (Expr × Bool)
  deriving Inhabited

/-- CHECK 制約: 文での名前と式。 -/
structure Check where
  name : String
  e : Expr
  deriving Inhabited

/-- 外部キー: 列、指す表と列 (名指さなければ親の主キー)、削除と更新での動作、
コミットのときだけ確かめるかどうか。 -/
structure ForeignKey where
  columns : List String
  parent : String
  parentColumns : List String
  onDelete : KeyAction
  onUpdate : KeyAction
  deferred : Bool
  deriving Inhabited

/-- 表の行: 行番号と、列の順の値。 -/
structure Row where
  rowid : Int
  values : Array Value
  deriving Inhabited

/-- 表。 -/
structure Table where
  name : String
  columns : Array Column
  /-- 行番号である列。あれば。 -/
  rowidAlias : Option Nat
  withoutRowid : Bool
  strict : Bool
  autoincrement : Bool
  /-- 行番号での衝突をどう解決するか。 -/
  rowidConflict : Conflict
  checks : List Check
  foreignKeys : List ForeignKey
  indexes : List Index
  rows : Array Row
  text : String
  seq : Nat
  deriving Inhabited

/-- ビュー: 名前、宣言した列の名前、問い合わせと定義。 -/
structure View where
  name : String
  columns : List String
  query : Query
  text : String
  seq : Nat
  deriving Inhabited

/-- トリガー。 -/
structure Trigger where
  name : String
  table : String
  time : TriggerTime
  event : TriggerEvent
  condition : Option Expr
  body : List Statement
  text : String
  seq : Nat
  deriving Inhabited

/-- データベース: 定義、行、ヘッダーの値。 -/
structure Database where
  tables : List Table
  views : List View
  triggers : List Trigger
  userVersion : Int
  applicationId : Int
  schemaVersion : Int
  pageSize : Nat
  utf16 : Bool
  /-- テキストの符号化が決まったかどうか。最初の定義がそれを決める。 -/
  encodingFixed : Bool
  pages : Nat
  nextSeq : Nat
  /-- データベースに加えた変更の数。接続はそれを比べて、自分が書いたものを見る。 -/
  revision : Nat
  deriving Inhabited

/-- 名前の小文字のバイト。名前の中でのそのキー。 -/
def nameKey (s : String) : List Nat := (Text.bytesOf s).map lowerByte

/-- 二つの名前が ASCII の大文字小文字を除いて同じかどうか。 -/
def sameName (a b : String) : Bool := nameKey a == nameKey b

namespace Database

/-- 与えた大きさのページを持つ空のデータベース。 -/
def empty (pageSize : Nat) (utf16 : Bool) : Database :=
  ⟨[], [], [], 0, 0, 0, pageSize, utf16, false, 0, 1, 0⟩

/-- 名前の表。 -/
def findTable (d : Database) (name : String) : Option Table :=
  d.tables.find? (sameName ·.name name)

/-- 名前のビュー。 -/
def findView (d : Database) (name : String) : Option View :=
  d.views.find? (sameName ·.name name)

/-- 名前の索引と、その表。 -/
def findIndex (d : Database) (name : String) : Option (Table × Index) :=
  d.tables.findSome? fun t => (t.indexes.find? (sameName ·.name name)).map (t, ·)

/-- 名前のトリガー。 -/
def findTrigger (d : Database) (name : String) : Option Trigger :=
  d.triggers.find? (sameName ·.name name)

/-- 名前の表を変える。 -/
def updateTable (d : Database) (name : String) (f : Table → Table) : Database :=
  { d with tables := d.tables.map fun t => if sameName t.name name then f t else t }

/-- 表を、その名前の表の場所に置く。 -/
def putTable (d : Database) (t : Table) : Database := d.updateTable t.name fun _ => t

/-- データベースが定義を持つかどうか。 -/
def hasDefinitions (d : Database) : Bool :=
  !d.tables.isEmpty || !d.views.isEmpty || !d.triggers.isEmpty

end Database

namespace Table

/-- 名前の列の位置。 -/
def columnIndex? (t : Table) (name : String) : Option Nat :=
  t.columns.toList.findIdx? (sameName ·.name name)

/-- 表が持てば、主キーの索引。 -/
def primaryIndex (t : Table) : Option Index := t.indexes.find? (·.primary)

/-- 最も大きい行番号。行がなければ零。 -/
def maxRowid (t : Table) : Int := t.rows.foldl (fun m r => max m r.rowid) 0

/-- 行番号の順に保つ表での、番号の行の位置。 -/
def rowPlace? (t : Table) (rowid : Int) : Option Nat :=
  t.rows.toList.findIdx? (·.rowid == rowid)

end Table

end HttpCaching.Sql
