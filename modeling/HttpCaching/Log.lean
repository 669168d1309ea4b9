/-!
# ログの記録

ミドルウェアが残す記録。一つの記録は水準、文、名前つきの値の並びからなる。
値は文字列、文字列の列、整数のどれか。出力の形 (JSON の一行や端末向けの一行) は
書き出す側が決める。
-/
namespace HttpCaching.Log

/-- 記録がどれほど大事か。最も細かいものから。 -/
inductive Level where
  | trace
  | debug
  | info
  | warn
  | error
  | fatal
  deriving DecidableEq, Repr, Inhabited

/-- 水準の小文字の名前。 -/
def Level.name : Level → String
  | .trace => "trace"
  | .debug => "debug"
  | .info => "info"
  | .warn => "warn"
  | .error => "error"
  | .fatal => "fatal"

/-- 記録が運ぶ値。 -/
inductive Value where
  | text (s : String)
  | texts (xs : List String)
  | int (n : Int)
  deriving DecidableEq, Repr, Inhabited

/-- 一つの記録: 水準、名前をつけた値の並び、文。 -/
structure Entry where
  level : Level
  fields : List (String × Value)
  message : String
  deriving DecidableEq, Repr, Inhabited

/-- 自分の値の前に文脈の値を置いた記録。 -/
def Entry.within (context : List (String × Value)) (level : Level)
    (fields : List (String × Value)) (message : String) : Entry :=
  ⟨level, context ++ fields, message⟩

end HttpCaching.Log
