import HttpCaching.Middleware.Setup
import HttpCaching.Directive.Call
import HttpCaching.Directive.Binding
/-!
# 作りかけの応答

一つの要求に対する応答の状態。ハンドラーが書き込むヘッダー、そのヘッダーの
Cache-Control フィールドに結びついた応答ディレクティブ、規則を当てたかどうか、
送り出した状態コードとヘッダー、本文、記録からなる。

結びついたディレクティブへの書き込みが成功するたびに、フィールドはその値に
書き直される (空なら消える)。ハンドラーがフィールドを自分で書き換えたときは、
次にディレクティブを渡す時点でディレクティブをフィールドから読み直す。
規則は最初にヘッダーを書き出すときに一度だけ、状態コード 200 の応答に当てる。
フラッシュは規則を当てずにヘッダーを送り出す。
本文を持てない状態コード (1xx・204・304) を送った後の書き込みも本文には残るが、
書き込みは誤りを返す。

下にある書き手は、送られたものを書き留める記録係として写す: 最初に送られた状態コードを、
1xx であってもそのまま確定したものとし、そのときのヘッダーを書き留める。サーバーの書き手なら
101 以外の 1xx は途中経過として書き出し、確定は次の状態コードまで待つが、それは写していない。
-/
namespace HttpCaching.Middleware

/-- 送り出したもの: その時点の状態コードとヘッダー。 -/
structure Sent where
  status : Int
  header : Http.Header

/-- ハンドラーが途中で止まったわけ。 -/
inductive Interrupt where
  /-- 100 から 999 の外の状態コードを送ろうとした。 -/
  | invalidStatus (code : Int)
  deriving DecidableEq, Repr

/-- 止まったことを知らせる文。 -/
def Interrupt.message : Interrupt → String
  | .invalidStatus code => "invalid WriteHeader code " ++ toString code

/-- 作りかけの応答。 -/
structure Exchange where
  request : Http.Request
  /-- 要求のディレクティブ。フィールドの値が同じ要求どうしで共有する。 -/
  requestDirectives : Directives
  /-- ハンドラーが書き込むヘッダー。 -/
  header : Http.Header
  /-- ヘッダーの Cache-Control フィールドに結びついた応答のディレクティブ。 -/
  directives : Directives
  /-- 規則が一度きりの機会を使ったかどうか。 -/
  rulesApplied : Bool
  sent : Option Sent
  body : String
  logs : List Log.Entry

/-- ディレクティブが結びつくフィールドの名前。 -/
def fieldName : String := "Cache-Control"

namespace Exchange

/-- 要求のどの記録も運ぶ値。 -/
def context (x : Exchange) : List (String × Log.Value) :=
  component ++ [("method", .text x.request.method), ("path", .text x.request.target.path)]

/-- 記録を足す。 -/
def record (x : Exchange) (level : Log.Level) (fields : List (String × Log.Value))
    (message : String) : Exchange :=
  { x with logs := x.logs ++ [Log.Entry.within x.context level fields message] }

/-- フィールドの値。フィールドがなければ `none`。 -/
def field (x : Exchange) : Option (List String) := x.header.field? fieldName

/-- 結びついたディレクティブへの書き込みの後: フィールドをその値にし、値が空なら除く。 -/
def sync (x : Exchange) : Exchange :=
  { x with header := x.directives.syncHeader x.header }.record .trace
    [("cacheControl", .text x.directives.render)] "Cache-Control header updated"

/-- 渡すときの結びついたディレクティブ: フィールドの値をつないだものがその値と違えば、
フィールドから読み直す。 -/
def refresh (x : Exchange) : Exchange :=
  let values := x.header.values fieldName
  if ", ".intercalate values == x.directives.render then x
  else
    { x with directives := x.directives.reset (Field.read values) }.record .trace
      [("cacheControl", .texts values)] "Cache-Control header changed by handler"

/-- 結びついたディレクティブに操作を走らせる。 -/
def perform (x : Exchange) (c : Call) : Exchange × Reply :=
  let o := x.directives.perform c
  let x := { x with directives := o.after }
  (if o.wrote then x.sync else x, o.reply)

/-- 状態コードとヘッダーを送る。既に送っていれば何もしない。記録係の書き手なので、最初に送る
状態コードが 1xx でもそれで確定する。範囲外の状態コードは送らずに止まる。 -/
def send (x : Exchange) (status : Int) : Exchange × Option Interrupt :=
  match x.sent with
  | some _ => (x, none)
  | none =>
    if status < 100 || status > 999 then (x, some (.invalidStatus status))
    else ({ x with sent := some ⟨status, x.header⟩ }, none)

/-- 規則をヘッダーに当て、失敗、ディレクティブの変化、これから書く応答を記録する。 -/
def applyRules (rules : List Rules.Rule) (x : Exchange) (status : Int) : Exchange :=
  let x := { x with rulesApplied := true }.refresh
  let before := x.directives.copy
  let w := Rules.applyRules rules status x.request x.header
  let x := { x with header := w.header }
  let x := match w.failure with
    | some e => x.record .error [("error", .text e.message)] "Could not apply Cache-Control rules"
    | none => x
  let x := x.refresh
  let applied := x.directives.render
  let x :=
    if applied != before.render then
      x.record .debug [("handler", .text before.describe), ("cacheControl", .text applied)]
        "Cache-Control rewritten by rule"
    else x
  x.record .trace [("status", .int status), ("cacheControl", .text (x.header.get fieldName))]
    "Writing response"

/-- 状態コードを書く: 初めてのときだけ、先に規則を当てる。 -/
def writeHeader (rules : List Rules.Rule) (x : Exchange) (status : Int) :
    Exchange × Option Interrupt :=
  (if x.rulesApplied then x else x.applyRules rules status).send status

/-- 本文のバイトを書く。状態コードをまだ書いていなければ、先に 200 を書く。 -/
def write (rules : List Rules.Rule) (x : Exchange) (bytes : String) :
    Exchange × Option Interrupt :=
  let (x, stop) := if x.rulesApplied then (x, none) else x.writeHeader rules 200
  match stop with
  | some i => (x, some i)
  | none => ({ x with body := x.body ++ bytes }, none)

/-- この状態コードの応答が本文を持ってよいかどうか: 1xx、204、304 以外。 -/
def bodyAllowed (status : Int) : Bool :=
  !((100 ≤ status && status ≤ 199) || status == 204 || status == 304)

/-- 本文を許さない状態コードの後の書き込みが答える誤り。 -/
def bodyRefusal : String := "http: request method or response status code does not allow body"

/-- 規則を当てずに、ヘッダーをそのまま送る。 -/
def flush (x : Exchange) : Exchange := (x.send 200).1

/-- 平文の誤りで答える: 型のフィールドを置き、状態コードを書き、テキストと改行を本文にする。 -/
def fail (rules : List Rules.Rule) (x : Exchange) (text : String) (status : Int) :
    Exchange × Option Interrupt :=
  let h := ((x.header.erase "Content-Length").set "Content-Type" "text/plain; charset=utf-8").set
    "X-Content-Type-Options" "nosniff"
  let (x, stop) := { x with header := h }.writeHeader rules status
  match stop with
  | some i => (x, some i)
  | none => x.write rules (text ++ "\n")

/-- 送り出した状態コードとヘッダー。なければ 200 と今のヘッダー。 -/
def result (x : Exchange) : Int × Http.Header :=
  match x.sent with
  | some s => (s.status, s.header)
  | none => (200, x.header)

/-- 送り出した状態コードが書き込みを通すかどうか。 -/
def acceptsBody (x : Exchange) : Bool := bodyAllowed x.result.1

end Exchange

/-- 要求のやりとりを始める: ディレクティブを引き、あれば記録する。only-if-cached の要求は、
ここはキャッシュではないので記録しておく。 -/
def Layer.begin (m : Layer) (req : Http.Request) : Layer × Exchange :=
  let (requests, parsed) := m.requests.get LruList.lru (req.header.values fieldName)
  let d := parsed.directives
  let x : Exchange :=
    ⟨req, d, Http.Header.empty, Directives.empty .response, false, none, "", []⟩
  let x := if d.provided then x.record .trace [("cacheControl", .text d.render)]
    "Request directives" else x
  let x := if d.onlyIfCached then x.record .debug []
    "Client asked for only-if-cached; there is no cache here, passing on" else x
  ({ m with requests }, x)

end HttpCaching.Middleware
