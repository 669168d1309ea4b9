import HttpCaching.Log
import HttpCaching.Text.Literal
/-!
# 端末向けの一行

記録を端末向けの一行にする: 水準の三文字の略号、文 (空なら省く)、それから
`名前=値` を名前の順に並べる。ただし `error` は先頭に出す。文字列の値は、制御文字・
空白・`\`・`"`・ASCII 以外の文字を含むときだけ二重引用符つきの表記にする。
文字列の列は JSON の配列で書く。文や値の中の、文字にならないバイトは U+FFFD で示す。
-/
namespace HttpCaching.Log

/-- 水準の三文字の印。 -/
def Level.mark : Level → String
  | .trace => "TRC"
  | .debug => "DBG"
  | .info => "INF"
  | .warn => "WRN"
  | .error => "ERR"
  | .fatal => "FTL"

/-- 水準の順位。最も細かいものから。 -/
def Level.rank : Level → Nat
  | .trace => 0
  | .debug => 1
  | .info => 2
  | .warn => 3
  | .error => 4
  | .fatal => 5

/-- テキストが一つの値として立つのに引用符が要るかどうか: 制御文字、空白、バックスラッシュ、
二重引用符、印字できる ASCII の外の文字を持つとき。 -/
def needsQuote (s : String) : Bool :=
  s.toList.any fun c => c.toNat < 0x20 || c.toNat > 0x7E || c == ' ' || c == '\\' || c == '"'

/-- JSON の文字列の中での文字の書き方: 引用符、バックスラッシュ、制御文字はエスケープし、HTML
で意味のある文字は `\u` のエスケープにする。 -/
def jsonChar (c : Char) : List Char :=
  match c with
  | '"' => ['\\', '"']
  | '\\' => ['\\', '\\']
  | '\n' => ['\\', 'n']
  | '\r' => ['\\', 'r']
  | '\t' => ['\\', 't']
  | _ =>
    let n := c.toNat
    if n < 0x20 || c == '<' || c == '>' || c == '&' || n == 0x2028 || n == 0x2029 then
      '\\' :: 'u' :: Text.hexDigits 4 n
    else [c]

/-- JSON の文字列のリテラル。 -/
def jsonString (s : String) : String := String.ofList ('"' :: s.toList.flatMap jsonChar ++ ['"'])

/-- 行に見せる値: テキストはひとつで立つバイトを U+FFFD で見せ、要るときは引用符で囲む。 -/
def Value.console : Value → String
  | .text s =>
    let s := Text.shown s
    if needsQuote s then Text.quoteLiteral s else s
  | .int n => toString n
  | .texts xs => "[" ++ ",".intercalate (xs.map (jsonString ∘ Text.shown)) ++ "]"

/-- 名前の順に並んだ列に、名前をつけた値を入れる。 -/
def insertField (f : String × Value) : List (String × Value) → List (String × Value)
  | [] => [f]
  | g :: gs => if f.1 ≤ g.1 then f :: g :: gs else g :: insertField f gs

/-- 行に見せる順の、名前をつけた値: 名前の順で、`error` が最初。 -/
def consoleOrder (fields : List (String × Value)) : List (String × Value) :=
  let sorted := fields.foldr insertField []
  sorted.filter (·.1 == "error") ++ sorted.filter (·.1 != "error")

/-- 記録の行。 -/
def Entry.consoleLine (e : Entry) : String :=
  let parts := [e.level.mark] ++ (if e.message.isEmpty then [] else [Text.shown e.message]) ++
    (consoleOrder e.fields).map fun (k, v) => k ++ "=" ++ v.console
  " ".intercalate parts

end HttpCaching.Log
