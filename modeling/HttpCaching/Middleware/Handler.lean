import HttpCaching.Middleware.Exchange
/-!
# ハンドラーの手順

ハンドラーが応答に対してする操作の列と、それを一つずつ行う `Layer.serve`。
ハンドラーは最後に求めたディレクティブ (要求のものか応答のものか) を持ち、
ディレクティブへの操作はそれに当たる。応答のディレクティブはいつも同じものが渡る。
状態コードが範囲外だと処理はそこで止まる。
-/
namespace HttpCaching.Middleware

/-- ハンドラーがすることの一つ。 -/
inductive Step where
  /-- 応答のディレクティブを求める。 -/
  | responseDirectives
  /-- 要求のディレクティブを求める。 -/
  | requestDirectives
  | setHeader (name value : String)
  | addHeader (name value : String)
  | deleteHeader (name : String)
  | writeHeader (status : Int)
  | write (bytes : String)
  | flush
  /-- 平文の誤りで答える。 -/
  | fail (text : String) (status : Int)
  /-- 最後に求めたディレクティブへの、名前で言う操作。その名前の操作がなければ `none`。 -/
  | call (name : String) (c : Option Call)

/-- ハンドラーがどのディレクティブを持っているか。 -/
inductive Held where
  | nothing
  | request
  | response
  deriving DecidableEq, Repr

/-- 一歩の答え。 -/
inductive StepReply where
  /-- 応答のディレクティブの値と、前にも渡されたかどうか。 -/
  | responseDirectives (header : String) (again : Bool)
  | requestDirectives (header : String)
  | done
  | wrote (bytes : Nat)
  /-- バイトは本文に入ったが、送った状態コードは本文を許さない: 何も書いたことにならない。 -/
  | refused
  | nothingHeld
  /-- 操作の答え、対象の役割、後の対象の値。 -/
  | call (reply : Reply) (role : Role) (targetHeader : String)

/-- 一歩の答えと、後のヘッダーの Cache-Control の値。 -/
structure StepResult where
  reply : StepReply
  field : Option (List String)

/-- 働いているハンドラー: 応答のやりとり、持っているもの、
前に応答のディレクティブを求めたかどうか。 -/
structure Handling where
  exchange : Exchange
  held : Held
  asked : Bool

namespace Handling

/-- 一歩を走らせる。 -/
def step (rules : List Rules.Rule) (h : Handling) : Step → Handling × StepReply × Option Interrupt
  | .responseDirectives =>
    let x := h.exchange.refresh
    (⟨x, .response, true⟩, .responseDirectives x.directives.render h.asked, none)
  | .requestDirectives =>
    ({ h with held := .request }, .requestDirectives h.exchange.requestDirectives.render, none)
  | .setHeader n v =>
    ({ h with exchange := { h.exchange with header := h.exchange.header.set n v } }, .done, none)
  | .addHeader n v =>
    ({ h with exchange := { h.exchange with header := h.exchange.header.add n v } }, .done, none)
  | .deleteHeader n =>
    ({ h with exchange := { h.exchange with header := h.exchange.header.erase n } }, .done, none)
  | .writeHeader status =>
    let (x, stop) := h.exchange.writeHeader rules status
    ({ h with exchange := x }, .done, stop)
  | .write bytes =>
    let (x, stop) := h.exchange.write rules bytes
    ({ h with exchange := x }, (if x.acceptsBody then .wrote bytes.utf8ByteSize else .refused), stop)
  | .flush => ({ h with exchange := h.exchange.flush }, .done, none)
  | .fail text status =>
    let (x, stop) := h.exchange.fail rules text status
    ({ h with exchange := x }, .done, stop)
  | .call _ c =>
    match h.held with
    | .nothing => (h, .nothingHeld, none)
    | .request =>
      let d := h.exchange.requestDirectives
      let reply := match c with
        | some c => (d.perform c).reply
        | none => .unavailable
      (h, .call reply d.role d.render, none)
    | .response =>
      match c with
      | some c =>
        let (x, reply) := h.exchange.perform c
        ({ h with exchange := x }, .call reply x.directives.role x.directives.render, none)
      | none =>
        let d := h.exchange.directives
        (h, .call .unavailable d.role d.render, none)

/-- 一歩ずつ順に、ハンドラーを止めるものが出るまで走らせる。終わった歩の結果を返す。 -/
def run (rules : List Rules.Rule) : Handling → List Step → Handling × List StepResult × Option Interrupt
  | h, [] => (h, [], none)
  | h, s :: rest =>
    let (h, reply, stop) := h.step rules s
    match stop with
    | some i => (h, [], some i)
    | none =>
      let result : StepResult := ⟨reply, h.exchange.field⟩
      let (h, results, stop) := run rules h rest
      (h, result :: results, stop)

end Handling

/-- 一つの要求に応えた結果: 歩の結果、送り出した状態コードとヘッダー、本文、記録、
ハンドラーを止めたもの。 -/
structure Served where
  results : List StepResult
  status : Int
  header : Http.Header
  body : String
  logs : List Log.Entry
  interrupt : Option Interrupt

/-- ハンドラーの歩で要求に応える。 -/
def Layer.serve (m : Layer) (req : Http.Request) (steps : List Step) :
    Layer × Served :=
  let (m, x) := m.begin req
  let (h, results, stop) := Handling.run m.rules ⟨x, .nothing, false⟩ steps
  let (status, header) := h.exchange.result
  (m, ⟨results, status, header, h.exchange.body, h.exchange.logs, stop⟩)

end HttpCaching.Middleware
