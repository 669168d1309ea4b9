import HttpCaching.Directive.Call
import HttpCaching.Proofs.Policy.Canonical
/-!
# 一回の操作が集まりにすること

`Directives.perform` の一回の操作がすることは三通りしかない (`perform_cases`)。
何もせず `done` 以外を答える (読む操作、使えない操作、失敗した書き込み、複製)。
書き込みに成功して表を変え、`provided` を立てる。`reset` で表を検査なしに置き換える。
書き込みが表にできることは `Change` の五つ: 何もしない、名前と引数を一つ入れる、名前を一つ
除く、空にする、検査を通った組を順に入れる。

集まりの不変条件はどれも、この補題から一回の操作について示し (`Change.preserve`)、操作の列へは
帰納法で広げる。操作が聞かれるのは成功した書き込みだけであること、役割が変わらないこと、
`provided` の立ち方も、この補題から読む。
-/
namespace HttpCaching

open HttpCaching.Field

/-! ## 操作の種類 -/

namespace Call

/-- 操作が書き込みかどうか: 汎用の書き込み、または型付きの書き込みか削除。読み取り、`reset`、
`copy` は書き込みでない。 -/
def isWrite : Call → Bool
  | .set .. | .delete _ | .clear | .update _ | .setFlag .. | .setFields .. | .setDelta ..
  | .remove _ => true
  | _ => false

/-- 型付きの書き込みは、型付きの設定子がどれもそうであるように、自分の種類のディレクティブを名指す:
存在だけのディレクティブ、フィールド一覧、または delta-seconds のディレクティブ。 -/
def KindMatches : Call → Prop
  | .setFlag n _ => ArgumentClass.of n = .flag
  | .setFields n _ => ArgumentClass.of n = .fields
  | .setDelta n _ => ArgumentClass.of n = .delta
  | _ => True

end Call

/-! ## 引数の検査と制御文字 -/

namespace Field

theorem hasControl_append (a b : String) :
    hasControl (a ++ b) = (hasControl a || hasControl b) := by
  simp [hasControl]

/-- 区切りにも要素にも制御文字がなければ、つないだものにもない。 -/
theorem hasControl_intercalate {sep : String} (hsep : hasControl sep = false) :
    ∀ {l : List String}, (∀ x ∈ l, hasControl x = false) → hasControl (sep.intercalate l) = false
  | [], _ => rfl
  | [x], h => by simpa using h x List.mem_cons_self
  | x :: y :: l, h => by
    rw [String.intercalate_cons_cons, hasControl_append, hasControl_append, hsep,
      h x List.mem_cons_self, hasControl_intercalate hsep fun z hz => h z (List.mem_cons_of_mem _ hz)]
    rfl

end Field

namespace Directives

open Directive Argument

/-! ## 表の変わり方 -/

/-- 操作が名前のもとに保存してよいもの: 正規形のトークンと、型付きの書き込みが自分の種類の
ディレクティブを名指すときはいつも検査を通る引数。 -/
def Stores (c : Call) (n : String) (a : Argument) : Prop :=
  isToken n = true ∧ normalizeName n = n ∧ (c.KindMatches → Accepted (ArgumentClass.of n) a)

/-- 書き込みが表にすること: 何もしない、`P` が許すディレクティブを一つ保存する、名前を除く、
表を空にする、または検査を通った組を順に保存する。 -/
inductive Change (P : String → Argument → Prop) (e : Entries) : Entries → Prop
  | keep : Change P e e
  | put {n : String} {a : Argument} : P n a → Change P e (e.put ⟨n, a⟩)
  | erase (n : String) : Change P e (e.erase n)
  | clear : Change P e Entries.empty
  | storeAll {cs : List (String × Option Argument)} : (∀ p ∈ cs, ∀ a, p.2 = some a → P p.1 a) →
      Change P e (cs.foldl (fun e p => store e p.1 p.2) e)

namespace Change

variable {P : String → Argument → Prop} {I : Entries → Prop} {e e' : Entries}

theorem preserve (hempty : I Entries.empty) (hput : ∀ {e n a}, I e → P n a → I (e.put ⟨n, a⟩))
    (herase : ∀ {e} n, I e → I (e.erase n)) (h : Change P e e') (he : I e) : I e' := by
  cases h with
  | keep => exact he
  | put hp => exact hput he hp
  | erase n => exact herase n he
  | clear => exact hempty
  | @storeAll cs hcs =>
    -- 組を一つずつ保存する。引数のない組は名前を除く
    induction cs generalizing e with
    | nil => exact he
    | cons p cs ih =>
      refine ih ?_ fun q hq => hcs q (List.mem_cons_of_mem _ hq)
      obtain ⟨n, _ | a⟩ := p
      · exact herase n he
      · exact hput he (hcs _ List.mem_cons_self a rfl)

theorem wf (h : Change P e e') (he : e.Wf) : e'.Wf :=
  h.preserve Entries.Wf.empty (fun h _ => h.put _) (fun n h => h.erase n) he

end Change

/-! ## 書き込みが成功したとき -/

variable {d d' : Directives}

theorem set_ok {n : String} {o : Operand} (hs : d.set n o = .ok d') :
    d.role ≠ .request ∧ isToken (normalizeName n) = true ∧
      ∃ a, coerce (normalizeName n) o = .ok a ∧ d' = d.changed (store d.entries (normalizeName n) a) := by
  simp only [set] at hs
  split at hs
  · cases hs
  · rename_i hr
    split at hs
    · cases hs
    · rename_i ht
      cases hc : coerce (normalizeName n) o with
      | error e => simp [hc, bind, Except.bind] at hs
      | ok a =>
        simp only [hc, bind, Except.bind, pure, Except.pure, Except.ok.injEq] at hs
        exact ⟨by simpa using hr, by simpa using ht, a, rfl, hs.symm⟩

theorem delete_ok {n : String} (hs : d.delete n = .ok d') :
    d.role ≠ .request ∧ d' = d.changed (d.entries.erase (normalizeName n)) := by
  simp only [delete] at hs
  split at hs
  · cases hs
  · rename_i hr
    cases hs
    exact ⟨by simpa using hr, rfl⟩

theorem clear_ok (hs : d.clear = .ok d') : d.role ≠ .request ∧ d' = d.changed Entries.empty := by
  simp only [Directives.clear] at hs
  split at hs
  · cases hs
  · rename_i hr
    cases hs
    exact ⟨by simpa using hr, rfl⟩

theorem update_role {ps : List Directive} (hu : d.update ps = .ok d') : d.role ≠ .request := by
  simp only [update] at hu
  split at hu
  · cases hu
  · rename_i hr
    simpa using hr

/-- 型付きの書き込みが成功すれば、引数なしか、トークンをつないだテキストを入れる。 -/
theorem setFields_ok {n : String} {fs : List String} (hs : d.setFields n fs = .ok d') :
    ∃ a, d' = d.changed (d.entries.put ⟨n, a⟩) ∧
      (a = .flag ∨ (∀ f ∈ fs, isToken f = true) ∧ a = .token (", ".intercalate fs)) := by
  simp only [setFields] at hs
  split at hs
  · cases hs
    exact ⟨.flag, rfl, .inl rfl⟩
  · split at hs
    · cases hs
    · rename_i hall
      cases hs
      exact ⟨_, rfl, .inr ⟨by simpa using hall, rfl⟩⟩

theorem setDelta_ok {n : String} {age : Duration} (hs : d.setDelta n age = .ok d') :
    0 ≤ age.seconds ∧ d' = d.changed (d.entries.put ⟨n, .int age.seconds⟩) := by
  simp only [setDelta] at hs
  split at hs
  · cases hs
  · rename_i hage
    cases hs
    exact ⟨seconds_nonneg (Int64.not_lt.mp hage), rfl⟩

/-! ## 一回の操作 -/

/-- 書き込みの結果: 失敗すれば何も変わらず、成功すれば表を変えた集まりになる。 -/
theorem written_cases {P : String → Argument → Prop} {r : Except DirectiveError Directives}
    (hr : ∀ d', r = .ok d' → ∃ e, d' = d.changed e ∧ d.role ≠ .request ∧ Change P d.entries e) :
    (d.written r = ⟨(d.written r).reply, d, false⟩ ∧ (d.written r).reply ≠ .done) ∨
      ∃ e, d.written r = ⟨.done, d.changed e, true⟩ ∧ d.role ≠ .request ∧ Change P d.entries e := by
  cases r with
  | error e => exact .inl ⟨rfl, Reply.noConfusion⟩
  | ok d' =>
    obtain ⟨e, rfl, hr, hc⟩ := hr d' rfl
    exact .inr ⟨e, rfl, hr, hc⟩

/-- `written` を通して答える書き込みは、`perform_cases` の最初の二つの場合のどちらか。 -/
theorem written_perform_cases {c : Call} (hw : c.isWrite = true) {r : Except DirectiveError Directives}
    (hr : ∀ d', r = .ok d' → ∃ e, d' = d.changed e ∧ d.role ≠ .request ∧ Change (Stores c) d.entries e) :
    (d.written r = ⟨(d.written r).reply, d, false⟩ ∧ (d.written r).reply ≠ .done) ∨
    (∃ e, d.written r = ⟨.done, d.changed e, true⟩ ∧ c.isWrite = true ∧ d.role ≠ .request ∧
      Change (Stores c) d.entries e) ∨
    (∃ ps, c = .reset ps ∧ d.written r = ⟨.done, d.reset ps, false⟩ ∧ d.role ≠ .request) := by
  rcases written_cases hr with hfail | ⟨e, he, hrole, hch⟩
  · exact .inl hfail
  · exact .inr (.inl ⟨e, he, hw, hrole, hch⟩)

theorem readTyped_ne_done (d : Directives) (n : String) : d.readTyped n ≠ .done := by
  unfold readTyped
  split <;> exact Reply.noConfusion

theorem typed_of_contains {r : Role} {n : String} (h : r.typedWrites.contains n = true) :
    r ≠ .request ∧ isToken n = true ∧ normalizeName n = n := by
  refine ⟨?_, Role.token_of_mem_typedWrites r n (by simpa using h)⟩
  rintro rfl
  simp [Role.typedWrites] at h

/-- 一回の操作がすることは三通り。何もせず `done` 以外を答える。要求のものでない集まりへの
書き込みに成功し、表を変えて `done` と答える。要求のものでない集まりを `reset` する。 -/
theorem perform_cases (d : Directives) (c : Call) :
    (d.perform c = ⟨(d.perform c).reply, d, false⟩ ∧ (d.perform c).reply ≠ .done) ∨
    (∃ e, d.perform c = ⟨.done, d.changed e, true⟩ ∧ c.isWrite = true ∧ d.role ≠ .request ∧
      Change (Stores c) d.entries e) ∨
    (∃ ps, c = .reset ps ∧ d.perform c = ⟨.done, d.reset ps, false⟩ ∧ d.role ≠ .request) := by
  unfold perform
  split
  · exact .inl ⟨rfl, Reply.noConfusion⟩
  · rename_i havail
    cases c with
    | set n o =>
      refine written_perform_cases rfl fun d' hs => ?_
      obtain ⟨hr, ht, a, hc, rfl⟩ := set_ok hs
      refine ⟨_, rfl, hr, ?_⟩
      cases a with
      | none => exact .erase _
      | some a =>
        exact .put ⟨ht, normalizeName_normalizeName n, fun _ => coerce_accepted hc⟩
    | delete n =>
      refine written_perform_cases rfl fun d' hs => ?_
      obtain ⟨hr, rfl⟩ := delete_ok hs
      exact ⟨_, rfl, hr, .erase _⟩
    | clear =>
      refine written_perform_cases rfl fun d' hs => ?_
      obtain ⟨hr, rfl⟩ := clear_ok hs
      exact ⟨_, rfl, hr, .clear⟩
    | update ps =>
      refine written_perform_cases rfl fun d' hs => ?_
      obtain ⟨cs, hcs, rfl⟩ := update_ok hs
      refine ⟨_, rfl, update_role hs, .storeAll fun p hp a ha => ?_⟩
      obtain ⟨ht, hn, ha⟩ := (checkAll_checked hcs p hp).stored a ha
      exact ⟨ht, hn, fun _ => ha⟩
    | setFlag n on =>
      obtain ⟨hr, ht, hn⟩ := typed_of_contains (by simpa [Call.available] using havail)
      refine .inr (.inl ⟨_, rfl, rfl, hr, ?_⟩)
      cases on with
      | true => exact .put ⟨ht, hn, fun hk => .flag (by simp_all [Call.KindMatches])⟩
      | false => exact .erase n
    | setFields n fs =>
      obtain ⟨hr, ht, hn⟩ := typed_of_contains (by simpa [Call.available] using havail)
      refine written_perform_cases rfl fun d' hs => ?_
      obtain ⟨a, rfl, ha⟩ := setFields_ok hs
      refine ⟨_, rfl, hr, .put ⟨ht, hn, fun hk => ?_⟩⟩
      simp only [Call.KindMatches] at hk
      rw [hk]
      rcases ha with rfl | ⟨hfs, rfl⟩
      · exact .flag (by decide)
      · refine .text (.inl rfl) (hasControl_intercalate (by decide) fun f hf => ?_)
        exact Accepted.hasControl_of_isToken (hfs f hf)
    | setDelta n age =>
      obtain ⟨hr, ht, hn⟩ := typed_of_contains (by simpa [Call.available] using havail)
      refine written_perform_cases rfl fun d' hs => ?_
      obtain ⟨hk, rfl⟩ := setDelta_ok hs
      refine ⟨_, rfl, hr, .put ⟨ht, hn, fun hkind => ?_⟩⟩
      simp only [Call.KindMatches] at hkind
      rw [hkind]
      exact .seconds rfl hk
    | remove n =>
      obtain ⟨hr, -⟩ := typed_of_contains (by simpa [Call.available] using havail)
      exact .inr (.inl ⟨_, rfl, rfl, hr, .erase n⟩)
    | reset ps =>
      refine .inr (.inr ⟨ps, rfl, rfl, ?_⟩)
      simpa [Call.available] using havail
    | read n => exact .inl ⟨rfl, readTyped_ne_done d n⟩
    | each stop => cases stop <;> exact .inl ⟨rfl, Reply.noConfusion⟩
    | get _ | has _ | size | names | provided | render | describe | copy =>
      exact .inl ⟨rfl, Reply.noConfusion⟩

theorem wrote_perform_iff {c : Call} :
    (d.perform c).wrote = true ↔ c.isWrite = true ∧ (d.perform c).reply = .done := by
  rcases perform_cases d c with ⟨he, hr⟩ | ⟨e, he, hw, -, -⟩ | ⟨ps, rfl, he, -⟩
  · rw [he]
    simp [hr]
  · rw [he]
    simp [hw]
  · rw [he]
    simp [Call.isWrite]

theorem role_perform (d : Directives) (c : Call) : (d.perform c).after.role = d.role := by
  rcases perform_cases d c with ⟨he, -⟩ | ⟨e, he, -⟩ | ⟨ps, -, he, -⟩ <;> rw [he] <;> rfl

/-- `provided` は成功した書き込みと、ディレクティブを残す `reset` で立ち、下りることはない。 -/
theorem provided_perform_iff {c : Call} :
    (d.perform c).after.provided = true ↔ d.provided = true ∨
      (d.perform c).reply = .done ∧
        (c.isWrite = true ∨ ∃ ps, c = .reset ps ∧ 0 < (entriesOf ps).size) := by
  rcases perform_cases d c with ⟨he, hr⟩ | ⟨e, he, hw, -, -⟩ | ⟨ps, rfl, he, -⟩
  · rw [he]
    simp [hr]
  · rw [he]
    simp [hw, changed]
  · rw [he]
    simp [reset, Call.isWrite]

end Directives

end HttpCaching
