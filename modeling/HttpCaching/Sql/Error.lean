import HttpCaching.Sql.Parse.Statement
/-!
# 実行の誤り

文を準備し走らせるときの誤りは、結果の番号とメッセージの組。番号の下位 8 ビットが主な
種類で、上のビットが細かい種類 (制約の種類など) を表す。

* 外に見せる文は、主な種類の説明、`: ` とメッセージ (説明と同じなら省く)、括弧の中の番号。
  ロックされたときだけ後ろに ` (SQLITE_BUSY)` が付く。
* 制約の誤りの番号は CHECK が 275、NOT NULL が 1299、PRIMARY KEY が 1555、UNIQUE が 2067、
  FOREIGN KEY が 787、トリガーの `RAISE` が 1811、厳格な表の型が 3091。
-/
namespace HttpCaching.Sql

/-- 文の失敗: 結果の符号と文。 -/
structure SqlError where
  code : Nat
  message : String
  deriving Inhabited, Repr

namespace SqlError

/-- 主な結果の符号の説明。 -/
def describe : Nat → String
  | 1 => "SQL logic error"
  | 3 => "access permission denied"
  | 4 => "query aborted"
  | 5 => "database is locked"
  | 6 => "database table is locked"
  | 7 => "out of memory"
  | 8 => "attempt to write a readonly database"
  | 9 => "interrupted"
  | 10 => "disk I/O error"
  | 11 => "database disk image is malformed"
  | 12 => "unknown operation"
  | 13 => "database or disk is full"
  | 14 => "unable to open database file"
  | 15 => "locking protocol"
  | 17 => "database schema has changed"
  | 18 => "string or blob too big"
  | 19 => "constraint failed"
  | 20 => "datatype mismatch"
  | 21 => "bad parameter or other API misuse"
  | 23 => "authorization denied"
  | 25 => "column index out of range"
  | 26 => "file is not a database"
  | _ => "unknown error"

/-- 主な部分による、結果の符号の説明。 -/
def describeCode (code : Nat) : String :=
  if code == 516 then "abort due to ROLLBACK" else describe (code % 256)

/-- 失敗のテキスト: 説明、それと違えば文、符号。 -/
def render (e : SqlError) : String :=
  let d := describeCode e.code
  (if e.message == d then d else d ++ ": " ++ e.message) ++ " (" ++ toString e.code ++ ")" ++
    (if e.code % 256 == 5 then " (SQLITE_BUSY)" else "")

/-- 文の言語の失敗。符号 1。 -/
def logic (message : String) : SqlError := ⟨1, message⟩

/-- 文がその符号の説明である失敗。 -/
def plain (code : Nat) : SqlError := ⟨code, describeCode code⟩

/-- 書き込みを拒むデータベースへの書き込み。 -/
def readOnly : SqlError := plain 8

/-- データベースが持てるより多くのページが要る書き込み。 -/
def full : SqlError := plain 13

/-- ほかの接続が持つ錠。 -/
def busy : SqlError := plain 5

/-- 読めなかった文の失敗。 -/
def ofParse (e : ParseError) : SqlError := logic e.text

/-- 破った CHECK 制約。その名前で。 -/
def check (name : String) : SqlError := ⟨275, "CHECK constraint failed: " ++ name⟩

/-- NOT NULL の列の NULL。その表と列で。 -/
def notNull (table column : String) : SqlError :=
  ⟨1299, "NOT NULL constraint failed: " ++ table ++ "." ++ column⟩

/-- 繰り返したキー。その列で (`table.column` をコンマでつないで)。 -/
def unique (primary : Bool) (columns : String) : SqlError :=
  ⟨if primary then 1555 else 2067, "UNIQUE constraint failed: " ++ columns⟩

/-- 厳格な表の列に対して型の違う値: 値の型、列の型、表、列。 -/
def datatype (valueType columnType table column : String) : SqlError :=
  ⟨3091, "cannot store " ++ valueType ++ " value in " ++ columnType ++ " column " ++ table ++ "." ++
    column⟩

end SqlError

end HttpCaching.Sql
