import HttpCaching.Sql.Value
import HttpCaching.Sql.Token
/-!
# SQL の構文

文を読んだ結果の木。式 (`Expr`)・問い合わせ (`Query`)・その部品は互いを含むので一組の
帰納型として定める。

* 名前は書かれた文字列と、二重引用符で書かれたかどうかを持つ。二重引用符の名前は、どの
  列にも当たらなければ文字列として読まれる。名前の比較は ASCII の大文字小文字を問わない。
* 問い合わせは `WITH` の定義、`UNION` などでつないだ単純な問い合わせの並び、全体に掛かる
  `ORDER BY` と `LIMIT` からなる。単純な問い合わせは `SELECT` か `VALUES`。
* `FROM` は結合の並び。最初の項目は結合の種類を持たない。
* 表の定義の式 (`CHECK` と `DEFAULT`) は書かれたとおりの文字列も持つ。誤りの文と
  スキーマの文字列に使う。
-/
namespace HttpCaching.Sql

/-- 書いたとおりの名前と、二重引用符の中にあったかどうか。 -/
structure Name where
  text : String
  doubleQuoted : Bool := false
  deriving Inhabited, Repr, BEq

namespace Name

/-- 名前の小文字のバイト。名前が同じとみなされるキー。 -/
def key (n : Name) : List Nat := (Text.bytesOf n.text).map lowerByte

/-- 二つの名前が ASCII の大文字小文字を除いて同じかどうか。 -/
def same (a b : Name) : Bool := a.key == b.key

/-- 名前が ASCII の大文字小文字を除いてこの語かどうか。 -/
def isWord (n : Name) (w : String) : Bool := n.key == (Text.bytesOf w).map lowerByte

end Name

/-- 二つのテキストが ASCII の大文字小文字を除いて同じかどうか。 -/
def sameText (a b : String) : Bool :=
  (Text.bytesOf a).map lowerByte == (Text.bytesOf b).map lowerByte

/-- 制約を破る行をどうするか。 -/
inductive Conflict where
  | rollback
  | abort
  | fail
  | ignore
  | replace
  deriving DecidableEq, Repr, Inhabited

/-- 被演算子一つの演算子。 -/
inductive UnaryOp where
  | negate
  | plus
  | bitNot
  | not
  deriving DecidableEq, Repr, Inhabited

/-- 被演算子二つの演算子。 -/
inductive BinaryOp where
  | or
  | and
  | eq
  | ne
  | lt
  | le
  | gt
  | ge
  | is
  | isNot
  | bitAnd
  | bitOr
  | shiftLeft
  | shiftRight
  | add
  | subtract
  | multiply
  | divide
  | remainder
  | concat
  | extract
  | extractValue
  deriving DecidableEq, Repr, Inhabited

/-- 二つの源のつなぎ方。 -/
inductive JoinKind where
  | first
  | inner
  | cross
  | left
  | right
  | full
  deriving DecidableEq, Repr, Inhabited

/-- 二つの問い合わせのつなぎ方。 -/
inductive CompoundOp where
  | union
  | unionAll
  | intersect
  | except
  deriving DecidableEq, Repr, Inhabited

/-- 文での複合演算子の名前。 -/
def CompoundOp.word : CompoundOp → String
  | .union => "UNION"
  | .unionAll => "UNION ALL"
  | .intersect => "INTERSECT"
  | .except => "EXCEPT"

mutual

/-- 式。 -/
inductive Expr where
  | literal (v : Value)
  /-- 書いたとおりの整数: 前のマイナスが、64 ビットの範囲の端での値を決める。 -/
  | integer (text : String)
  /-- 読めるが走らせられない項。問題の文で。 -/
  | failure (message : String)
  /-- パラメーター。その枠 (一から) で。 -/
  | param (slot : Nat)
  /-- 列: 名前。表とスキーマの名前が与えられればその後に。 -/
  | column (path : List Name)
  | unary (op : UnaryOp) (e : Expr)
  | binary (op : BinaryOp) (a b : Expr)
  /-- `isNull` なら `e ISNULL`、そうでなければ `e NOTNULL`。 -/
  | nullTest (e : Expr) (isNull : Bool)
  /-- `LIKE`、`GLOB`、`REGEXP` または `MATCH`。大文字の語で。 -/
  | like (word : String) (negated : Bool) (e pattern : Expr) (escape : Option Expr)
  | between (negated : Bool) (e lo hi : Expr)
  | inList (negated : Bool) (e : Expr) (items : List Expr)
  | inQuery (negated : Bool) (e : Expr) (q : Query)
  | inTable (negated : Bool) (e : Expr) (path : List Name) (args : Option (List Expr))
  | exists (q : Query)
  | scalar (q : Query)
  | caseOf (operand : Option Expr) (arms : List (Expr × Expr)) (otherwise : Option Expr)
  | cast (e : Expr) (type : String)
  | collate (e : Expr) (name : String)
  /-- 関数の呼び出し。`f(*)` には `star`、フィルターかウィンドウが続けば `windowed`。 -/
  | call (name : Name) (distinct : Bool) (args : List Expr) (star : Bool) (windowed : Bool)
  | vector (items : List Expr)
  /-- `RAISE(IGNORE)` は文を持たない。 -/
  | raise (kind : Option Conflict) (message : String)
  /-- `CURRENT_TIME`、`CURRENT_DATE` または `CURRENT_TIMESTAMP`。 -/
  | currentTime (word : String)

/-- 問い合わせ: 共通表、複合演算子でつないだ単純な問い合わせ、順、上限。 -/
inductive Query where
  | mk (common : List CommonTable) (first : Simple) (rest : List (CompoundOp × Simple))
      (orderBy : List OrderTerm) (limit : Option (Expr × Option Expr))

/-- `WITH` 句の名前つきの問い合わせ。 -/
inductive CommonTable where
  | mk (name : Name) (columns : List Name) (q : Query)

/-- 単純な問い合わせ。 -/
inductive Simple where
  | select (distinct : Bool) (columns : List ResultColumn) (source : List Join)
      (filter : Option Expr) (groupBy : List Expr) (having : Option Expr)
  | values (rows : List (List Expr))

/-- 問い合わせの結果の列。 -/
inductive ResultColumn where
  | all
  | allOf (table : Name)
  /-- 式、その別名、書いたとおりのテキスト。 -/
  | expr (e : Expr) (label : Option Name) (text : String)

/-- 行の源と、それが前のものにどうつながるか。 -/
inductive Join where
  | mk (kind : JoinKind) (natural : Bool) (source : Source) (on : Option Expr) (usingColumns : List Name)

/-- 行の源。 -/
inductive Source where
  | table (schema : Option Name) (name : Name) (label : Option Name)
  | function (schema : Option Name) (name : Name) (args : List Expr) (label : Option Name)
  | query (q : Query) (label : Option Name)
  | group (joins : List Join) (label : Option Name)

/-- 順の項: 式、降順かどうか、言われたときの NULL の位置。 -/
inductive OrderTerm where
  | mk (e : Expr) (descending : Bool) (nullsFirst : Option Bool)

end

instance : Inhabited Expr := ⟨.literal .null⟩

instance : Inhabited Query := ⟨.mk [] (.values []) [] [] none⟩

/-- 索引かキーの列: 式 (多くは列の名前)、与えられればその照合順序、降順かどうか。 -/
structure IndexedColumn where
  e : Expr
  collation : Option String
  descending : Bool
  deriving Inhabited

/-- 削除されたか変えられた親のキーを指す行に、外部キーがすること: すぐには何もしない、拒む、キーを
NULL か既定値にする、またはそれらに同じことをする。 -/
inductive KeyAction where
  | noAction
  | restrict
  | setNull
  | setDefault
  | cascade
  deriving DecidableEq, Inhabited, Repr

/-- 外部キーが指すものと、削除と更新でのその動作。 -/
structure Reference where
  table : Name
  columns : List Name
  onDelete : KeyAction
  onUpdate : KeyAction
  deriving Inhabited

/-- 一つの列の制約。 -/
inductive ColumnConstraint where
  | primaryKey (descending : Bool) (conflict : Option Conflict) (autoincrement : Bool)
  | notNull (conflict : Option Conflict)
  | nullable
  | unique (conflict : Option Conflict)
  | check (e : Expr) (text : String)
  | defaultValue (e : Expr) (text : String)
  | collate (name : String)
  | references (r : Reference)
  /-- 最後に定義した外部キーの `[NOT] DEFERRABLE [INITIALLY DEFERRED|IMMEDIATE]`。 -/
  | deferral (deferred : Bool)
  | generated (e : Expr) (stored : Bool)
  /-- `CONSTRAINT name`。その後の制約に名をつける。 -/
  | named (name : Name)
  deriving Inhabited

/-- 表の定義の列: 名前、書いたとおりの宣言した型、制約。 -/
structure ColumnDef where
  name : Name
  type : String
  constraints : List ColumnConstraint
  deriving Inhabited

/-- 表の定義の制約。 -/
inductive TableConstraint where
  | primaryKey (columns : List IndexedColumn) (conflict : Option Conflict) (autoincrement : Bool)
  | unique (columns : List IndexedColumn) (conflict : Option Conflict)
  | check (e : Expr) (text : String)
  | foreignKey (columns : List Name) (r : Reference) (deferred : Bool)
  | named (name : Name)
  deriving Inhabited

/-- `CREATE TABLE` の本体: 列と制約と選択肢、または問い合わせ。 -/
inductive TableBody where
  | columns (defs : List ColumnDef) (constraints : List TableConstraint) (withoutRowid : Bool)
      (strict : Bool)
  | query (q : Query)
  deriving Inhabited

/-- `INSERT` の行がどこから来るか。 -/
inductive InsertSource where
  | query (q : Query)
  | defaults
  deriving Inhabited

/-- `UPDATE` か upsert の代入: 列と値。 -/
structure Assignment where
  columns : List Name
  value : Expr
  deriving Inhabited

/-- `INSERT` の `ON CONFLICT` 句: 目標と、`DO NOTHING` なら `none`、`DO UPDATE` なら代入と条件。 -/
structure Upsert where
  target : Option (List IndexedColumn × Option Expr)
  update : Option (List Assignment × Option Expr)
  deriving Inhabited

/-- `PRAGMA` に与えるもの: なし、または語か数としての値。 -/
inductive PragmaArg where
  | none
  /-- 値、そのテキスト、符号を変えたかどうか。 -/
  | value (text : String) (negative : Bool) (isNumber : Bool)
  deriving Inhabited, Repr

/-- スキーマの対象の種類。 -/
inductive ObjectKind where
  | table
  | index
  | view
  | trigger
  deriving DecidableEq, Repr, Inhabited

/-- トランザクションの開き方。 -/
inductive BeginKind where
  | deferred
  | immediate
  | exclusive
  deriving DecidableEq, Repr, Inhabited

/-- トリガーが起きる時。 -/
inductive TriggerTime where
  | before
  | after
  | insteadOf
  deriving DecidableEq, Repr, Inhabited

/-- トリガーが起きる変更。 -/
inductive TriggerEvent where
  | insert
  | delete
  /-- 更新。列を挙げていれば、挙げた列の。 -/
  | update (columns : List Name)
  deriving Inhabited

/-- 文。 -/
inductive Statement where
  | query (q : Query)
  | insert (common : List CommonTable) (conflict : Option Conflict) (schema : Option Name)
      (table : Name) (label : Option Name) (columns : Option (List Name)) (source : InsertSource)
      (upserts : List Upsert) (returning : List ResultColumn)
  | update (common : List CommonTable) (conflict : Option Conflict) (schema : Option Name)
      (table : Name) (label : Option Name) (sets : List Assignment) (source : List Join)
      (filter : Option Expr) (returning : List ResultColumn)
  | delete (common : List CommonTable) (schema : Option Name) (table : Name) (label : Option Name)
      (filter : Option Expr) (returning : List ResultColumn)
  | createTable (temp : Bool) (ifNotExists : Bool) (schema : Option Name) (name : Name)
      (body : TableBody) (text : String)
  | createIndex (unique : Bool) (ifNotExists : Bool) (schema : Option Name) (name : Name)
      (table : Name) (columns : List IndexedColumn) (filter : Option Expr) (text : String)
  | createView (temp : Bool) (ifNotExists : Bool) (schema : Option Name) (name : Name)
      (columns : List Name) (q : Query) (text : String)
  | createTrigger (temp : Bool) (ifNotExists : Bool) (schema : Option Name) (name : Name)
      (time : TriggerTime) (event : TriggerEvent) (table : List Name) (condition : Option Expr)
      (body : List Statement) (text : String)
  | createVirtual (ifNotExists : Bool) (schema : Option Name) (name : Name) (module : Name)
  | drop (kind : ObjectKind) (ifExists : Bool) (schema : Option Name) (name : Name)
  | renameTable (schema : Option Name) (table : Name) (newName : Name)
  | addColumn (schema : Option Name) (table : Name) (column : ColumnDef) (text : String)
  | renameColumn (schema : Option Name) (table : Name) (old new : Name)
  | dropColumn (schema : Option Name) (table : Name) (column : Name)
  | begin (kind : BeginKind)
  | commit
  | rollback (savepoint : Option Name)
  | savepoint (name : Name)
  | release (name : Name)
  | attach (file : Expr) (schema : Expr) (key : Option Expr)
  | detach (schema : Expr)
  | vacuum (schema : Option Name) (into : Option Expr)
  | analyze (target : List Name)
  | reindex (target : List Name)
  /-- プラグマ。スキーマは書いたとおりの字句とともに。 -/
  | pragma (schema : Option (Name × String)) (name : Name) (arg : PragmaArg)
  /-- 走らせるのではなく、説明するために準備した文。 -/
  | explain (plan : Bool) (s : Statement)
  deriving Inhabited

end HttpCaching.Sql
