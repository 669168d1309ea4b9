import HttpCaching.Middleware.Handler
/-!
# ヘッダーを送り出す時点と規則

応答のヘッダーが最初に出ていく道は四つ: 状態コードを書く (`writeHeader`)、本文を書く
(`write`、先に状態コード 200 を書く)、フラッシュ (`flush`)、何も書かずにハンドラーが終わる
(`Exchange.result`)。規則を当てるのは状態コードを書くときだけで、一つの要求に一度だけ。

主な主張は `commit_of_pending`: ヘッダーがまだ出ていない時点 (`Pending`) では規則はまだ
当たっておらず、そこから状態コードか本文を書けば、そのときのヘッダーに規則を当てたものが
出ていく。フラッシュとハンドラーの終わりでは、そのときのヘッダーが規則を当てずに出ていく。
-/
namespace HttpCaching.Middleware

namespace Exchange

variable (x : Exchange)

/-! ## ヘッダー・送り出し・規則の印を変えない操作 -/

@[simp]
theorem record_header (level : Log.Level) (fields : List (String × Log.Value)) (message : String) :
    (x.record level fields message).header = x.header := rfl

@[simp]
theorem record_sent (level : Log.Level) (fields : List (String × Log.Value)) (message : String) :
    (x.record level fields message).sent = x.sent := rfl

@[simp]
theorem record_rulesApplied (level : Log.Level) (fields : List (String × Log.Value))
    (message : String) : (x.record level fields message).rulesApplied = x.rulesApplied := rfl

@[simp]
theorem record_request (level : Log.Level) (fields : List (String × Log.Value)) (message : String) :
    (x.record level fields message).request = x.request := rfl

/-- 結びついたディレクティブを読み直しても、ヘッダーも送り出しも規則の印も変わらない。 -/
theorem refresh_fields :
    x.refresh.header = x.header ∧ x.refresh.sent = x.sent ∧
      x.refresh.rulesApplied = x.rulesApplied ∧ x.refresh.request = x.request := by
  dsimp only [refresh]
  split <;> simp

@[simp] theorem refresh_header : x.refresh.header = x.header := (refresh_fields x).1
@[simp] theorem refresh_sent : x.refresh.sent = x.sent := (refresh_fields x).2.1
@[simp] theorem refresh_rulesApplied : x.refresh.rulesApplied = x.rulesApplied :=
  (refresh_fields x).2.2.1
@[simp] theorem refresh_request : x.refresh.request = x.request := (refresh_fields x).2.2.2

theorem perform_fields (c : Call) :
    (x.perform c).1.sent = x.sent ∧ (x.perform c).1.rulesApplied = x.rulesApplied := by
  dsimp only [perform]
  split <;> simp [sync]

/-! ## 規則を当てる -/

/-- 規則を当てると、ヘッダーは規則の書き換えたものになり、規則の印が付く。 -/
theorem applyRules_fields (rules : List Rules.Rule) (status : Int) :
    (x.applyRules rules status).header = (Rules.applyRules rules status x.request x.header).header ∧
      (x.applyRules rules status).sent = x.sent ∧
      (x.applyRules rules status).rulesApplied = true := by
  dsimp only [applyRules]
  refine ⟨?_, ?_, ?_⟩ <;> simp only [record_header, record_sent, record_rulesApplied] <;>
    split <;> split <;> simp

/-! ## 送り出す -/

variable {x}

/-- 範囲外の状態コード。送り出さずに処理を止める。 -/
abbrev invalid (status : Int) : Bool := status < 100 || status > 999

theorem send_of_sent_none (hs : x.sent = none) (status : Int) :
    (x.send status).1.sent = (if invalid status then none else some ⟨status, x.header⟩) ∧
      (x.send status).2 = (if invalid status then some (.invalidStatus status) else none) ∧
      (x.send status).1.rulesApplied = x.rulesApplied ∧ (x.send status).1.header = x.header := by
  simp only [send, hs]
  split <;> simp_all

/-- まだ何も送り出さず規則も当てていなければ、状態コードを書くと、そのときのヘッダーに
規則を当てたものがその状態コードで出ていく。範囲外の状態コードでは何も出ていかない。 -/
theorem writeHeader_of_fresh (rules : List Rules.Rule) (hs : x.sent = none)
    (hr : x.rulesApplied = false) (status : Int) :
    (x.writeHeader rules status).1.sent = (if invalid status then none
        else some ⟨status, (Rules.applyRules rules status x.request x.header).header⟩) ∧
      (x.writeHeader rules status).2 = (if invalid status then some (.invalidStatus status) else none) ∧
      (x.writeHeader rules status).1.rulesApplied = true := by
  obtain ⟨hh, hsent, hra⟩ := applyRules_fields x rules status
  obtain ⟨h1, h2, h3, h4⟩ := send_of_sent_none (hsent.trans hs) status
  simp only [writeHeader, hr, Bool.false_eq_true, if_false]
  exact ⟨by rw [h1, hh], h2, h3.trans hra⟩

theorem writeHeader_header_of_applied (rules : List Rules.Rule) (hr : x.rulesApplied = true)
    (status : Int) : (x.writeHeader rules status).1.header = x.header := by
  simp only [writeHeader, hr, if_true, send]
  split
  · rfl
  · split <;> rfl

/-- まだ何も送り出さず規則も当てていなければ、本文を書くと、そのときのヘッダーに規則を
当てたものが状態コード 200 で出ていく。 -/
theorem write_of_fresh (rules : List Rules.Rule) (hs : x.sent = none)
    (hr : x.rulesApplied = false) (bytes : String) :
    (x.write rules bytes).1.sent = some ⟨200, (Rules.applyRules rules 200 x.request x.header).header⟩ ∧
      (x.write rules bytes).2 = none := by
  obtain ⟨h1, h2, -⟩ := writeHeader_of_fresh rules hs hr 200
  have hv : invalid 200 = false := by decide
  rw [hv] at h1 h2
  simp only [Bool.false_eq_true, if_false] at h1 h2
  simp only [write, hr, Bool.false_eq_true, if_false, h2]
  exact ⟨h1, trivial⟩

theorem write_header_of_applied (rules : List Rules.Rule) (hr : x.rulesApplied = true)
    (bytes : String) : (x.write rules bytes).1.header = x.header := by
  simp [write, hr]

theorem flush_of_sent_none (hs : x.sent = none) :
    x.flush.sent = some ⟨200, x.header⟩ ∧ x.flush.rulesApplied = x.rulesApplied := by
  obtain ⟨h1, -, h3, -⟩ := send_of_sent_none hs 200
  have hv : invalid 200 = false := by decide
  rw [hv] at h1
  exact ⟨h1, h3⟩

theorem result_of_sent_none (hs : x.sent = none) : x.result = (200, x.header) := by
  simp [result, hs]

/-! ## 規則の印 -/

variable (x)

@[simp]
theorem send_rulesApplied (status : Int) : (x.send status).1.rulesApplied = x.rulesApplied := by
  simp only [send]
  split
  · rfl
  · split <;> rfl

@[simp]
theorem writeHeader_rulesApplied (rules : List Rules.Rule) (status : Int) :
    (x.writeHeader rules status).1.rulesApplied = true := by
  cases hr : x.rulesApplied with
  | true => simp [writeHeader, hr]
  | false => simp [writeHeader, hr, (applyRules_fields x rules status).2.2]

@[simp]
theorem write_rulesApplied (rules : List Rules.Rule) (bytes : String) :
    (x.write rules bytes).1.rulesApplied = true := by
  cases hr : x.rulesApplied with
  | true => simp [write, hr]
  | false =>
    simp only [write, hr, Bool.false_eq_true, if_false]
    split <;> simp_all

theorem write_of_applied (rules : List Rules.Rule) (hr : x.rulesApplied = true) (bytes : String) :
    (x.write rules bytes).1.sent = x.sent ∧ (x.write rules bytes).2 = none := by
  simp [write, hr]

@[simp]
theorem fail_rulesApplied (rules : List Rules.Rule) (text : String) (status : Int) :
    (x.fail rules text status).1.rulesApplied = true := by
  simp only [fail]
  split <;> simp_all

/-- 何も送り出さず規則も当てていなければ、誤りの応答は、止まらない限り何かを送り出す。 -/
theorem fail_commits (rules : List Rules.Rule) (hs : x.sent = none) (hr : x.rulesApplied = false)
    (text : String) (status : Int) (hstop : (x.fail rules text status).2 = none) :
    (x.fail rules text status).1.sent ≠ none := by
  simp only [fail] at hstop ⊢
  -- 型の欄を書き足した交換は、送り出しも規則の印も元のまま
  generalize hy : ({ x with header := _ } : Exchange) = y at hstop ⊢
  have hys : y.sent = none := by rw [← hy]; exact hs
  have hyr : y.rulesApplied = false := by rw [← hy]; exact hr
  obtain ⟨h1, h2, h3⟩ := writeHeader_of_fresh rules hys hyr status
  generalize y.writeHeader rules status = w at h1 h2 h3 hstop ⊢
  obtain ⟨x', stop⟩ := w
  simp only at h1 h2 h3 hstop ⊢
  cases stop with
  | some i => simp at hstop
  | none =>
    -- 範囲内の状態コードだったので、規則を当てたヘッダーが出ている
    have hv : invalid status = false := by
      cases hi : invalid status with
      | false => rfl
      | true => simp [hi] at h2
    simp only [hv, Bool.false_eq_true, if_false] at h1
    simp only
    rw [(write_of_applied x' rules h3 _).1, h1]
    simp

end Exchange

theorem begin_fresh (m : Layer) (req : Http.Request) :
    (m.begin req).2.sent = none ∧ (m.begin req).2.rulesApplied = false := by
  dsimp only [Layer.begin]
  constructor <;> split <;> split <;> simp

/-- 規則を当てる手順: 状態コードを書く、本文を書く、誤りで応える。フラッシュは当てない。 -/
def Step.appliesRules : Step → Bool
  | .writeHeader _ | .write _ | .fail _ _ => true
  | _ => false

namespace Handling

/-! ## 一つの手順 -/

theorem rulesApplied_step (rules : List Rules.Rule) (h : Handling) (s : Step) :
    (h.step rules s).1.exchange.rulesApplied = (s.appliesRules || h.exchange.rulesApplied) := by
  cases s with
  | writeHeader | write | fail => simp [step, Step.appliesRules]
  | flush => simp [step, Step.appliesRules, Exchange.flush]
  | responseDirectives | requestDirectives | setHeader | addHeader | deleteHeader =>
    simp [step, Step.appliesRules]
  | call name c =>
    simp only [step, Step.appliesRules, Bool.false_or]
    split
    · rfl
    · rfl
    · split
      · exact (Exchange.perform_fields _ _).2
      · rfl

/-- 何も送り出さず規則も当てていない状態から、止まらず何も送り出さない手順の後も、規則は
当たっていない。規則を当てる手順は、止まるか何かを送り出すので、この前提に合わない。 -/
theorem rulesApplied_step_of_fresh (rules : List Rules.Rule) {h : Handling}
    (hs : h.exchange.sent = none) (hr : h.exchange.rulesApplied = false) (s : Step)
    (hstop : (h.step rules s).2.2 = none) (hsent : (h.step rules s).1.exchange.sent = none) :
    (h.step rules s).1.exchange.rulesApplied = false := by
  rw [rulesApplied_step, hr, Bool.or_false]
  cases s with
  | writeHeader status =>
    obtain ⟨h1, h2, -⟩ := Exchange.writeHeader_of_fresh rules hs hr status
    simp only [step] at hstop hsent
    cases hi : Exchange.invalid status with
    | true => simp [hi, hstop] at h2
    | false => simp [hi, hsent] at h1
  | write bytes =>
    simp only [step] at hsent
    simp [(Exchange.write_of_fresh rules hs hr bytes).1] at hsent
  | fail text status =>
    simp only [step] at hstop hsent
    exact absurd hsent (Exchange.fail_commits _ rules hs hr text status hstop)
  | flush | responseDirectives | requestDirectives | setHeader | addHeader | deleteHeader | call =>
    rfl

/-! ## ヘッダーがまだ出ていない状態 -/

/-- ヘッダーがまだ出ていない、ハンドラーの途中の状態: 要求を受けたところから、止まらず何も
送り出さない手順を重ねたもの。ヘッダーやディレクティブへのどんな書き込みの後でもよい。 -/
inductive Pending (rules : List Rules.Rule) : Handling → Prop
  | start (m : Layer) (req : Http.Request) : m.rules = rules →
      Pending rules ⟨(m.begin req).2, .nothing, false⟩
  | step {h : Handling} (s : Step) : Pending rules h → (h.step rules s).2.2 = none →
      (h.step rules s).1.exchange.sent = none → Pending rules (h.step rules s).1

theorem Pending.fresh {rules : List Rules.Rule} {h : Handling} (hp : Pending rules h) :
    h.exchange.sent = none ∧ h.exchange.rulesApplied = false := by
  induction hp with
  | start m req _ => exact begin_fresh m req
  | step s _ hstop hsent ih =>
    exact ⟨hsent, rulesApplied_step_of_fresh rules ih.1 ih.2 s hstop hsent⟩

/-- ヘッダーが最初に出ていくとき: 状態コードを書けば (範囲内なら) その状態コードで、本文を
書けば 200 で、そのときのヘッダーに規則を当てたものが出ていく。フラッシュとハンドラーの
終わりでは、そのときのヘッダーが規則を当てずに 200 で出ていく。規則は一度当てれば二度と
当たらず、その後の状態コードや本文の書き込みはヘッダーを変えない。 -/
theorem commit_of_pending {rules : List Rules.Rule} {h : Handling} (hp : Pending rules h) :
    (∀ status, (h.step rules (.writeHeader status)).1.exchange.sent =
      if Exchange.invalid status then none
      else some ⟨status, (Rules.applyRules rules status h.exchange.request h.exchange.header).header⟩) ∧
    (∀ bytes, (h.step rules (.write bytes)).1.exchange.sent =
      some ⟨200, (Rules.applyRules rules 200 h.exchange.request h.exchange.header).header⟩) ∧
    (h.step rules .flush).1.exchange.sent = some ⟨200, h.exchange.header⟩ ∧
    h.exchange.result = (200, h.exchange.header) ∧
    ∀ h' : Handling, h'.exchange.rulesApplied = true → ∀ s,
      (h'.step rules s).1.exchange.rulesApplied = true ∧
        (∀ status, (h'.step rules (.writeHeader status)).1.exchange.header = h'.exchange.header) ∧
        (∀ bytes, (h'.step rules (.write bytes)).1.exchange.header = h'.exchange.header) := by
  obtain ⟨hs, hr⟩ := hp.fresh
  refine ⟨fun status => (Exchange.writeHeader_of_fresh rules hs hr status).1,
    fun bytes => (Exchange.write_of_fresh rules hs hr bytes).1,
    (Exchange.flush_of_sent_none hs).1, Exchange.result_of_sent_none hs, ?_⟩
  intro h' hr' s
  refine ⟨by rw [rulesApplied_step, hr', Bool.or_true], fun status => ?_, fun bytes => ?_⟩
  · exact Exchange.writeHeader_header_of_applied rules hr' status
  · exact Exchange.write_header_of_applied rules hr' bytes

/-- 応答を `no-store` に書き換える規則の層で、ハンドラーが Cache-Control に `max-age=5` を
書いたところ: ヘッダーはまだ出ておらず、ここでフラッシュすると、そのときのヘッダーが規則を
当てずに出ていく。 -/
theorem flush_after_handler_write :
    Pending [{ (default : Rules.Rule) with override := "no-store" }]
        (Handling.step [{ (default : Rules.Rule) with override := "no-store" }]
          ⟨(Layer.begin ⟨[{ (default : Rules.Rule) with override := "no-store" }], .disabled⟩
            default).2, .nothing, false⟩ (.setHeader "Cache-Control" "max-age=5")).1 ∧
      (Handling.step [{ (default : Rules.Rule) with override := "no-store" }]
          (Handling.step [{ (default : Rules.Rule) with override := "no-store" }]
            ⟨(Layer.begin ⟨[{ (default : Rules.Rule) with override := "no-store" }], .disabled⟩
              default).2, .nothing, false⟩ (.setHeader "Cache-Control" "max-age=5")).1
          .flush).1.exchange.sent =
        some ⟨200, (Layer.begin ⟨[{ (default : Rules.Rule) with override := "no-store" }],
          .disabled⟩ default).2.header.set "Cache-Control" "max-age=5"⟩ := by
  have hp := Pending.step (.setHeader "Cache-Control" "max-age=5")
    (.start ⟨[{ (default : Rules.Rule) with override := "no-store" }], .disabled⟩ default rfl) rfl
    (begin_fresh ⟨[{ (default : Rules.Rule) with override := "no-store" }], .disabled⟩ default).1
  exact ⟨hp, (commit_of_pending hp).2.2.1⟩

end Handling

end HttpCaching.Middleware
