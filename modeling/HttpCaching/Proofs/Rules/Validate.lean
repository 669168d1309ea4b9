import HttpCaching.Proofs.Directive.Write
import HttpCaching.Middleware.Exchange
/-!
# 検査を通った規則は失敗しない

規則の検査 (`validate`) は、各規則を空の応答ディレクティブに一度当ててみる。空の集まりでは
`default` の枝が必ず選ばれるが、本当の応答では `override`・`default`・どちらでもない枝が
状態によって選ばれる。それでも検査は健全。書き込みを受け付ける集まりへの書き込みの成否は値
だけで決まる (`Steady`) ので、本当の応答に当てた規則は、検査で当てた規則より先に失敗する
ことがない (`Applied.Follows`)。置き換えの枝は、新しい値を先に別の空の集まりで確かめるので、
確かめが通れば空にする書き込みもまとめた書き込みも必ず通る。

主な主張は `validate_sound`: 書き込みの成否は集まりの中身によらず、検査を通った規則の並びの
どの規則も、どんな状態の書き込める集まりに当てても失敗せず、状態コードや要求によらず
応答ヘッダーの書き換えは失敗しない。ミドルウェアの規則 (検査を通った設定の規則と、保存した
方針から作る規則) では、ヘッダーを書き出すときに規則を当てられなかったという誤りの記録は
残らない。
-/
namespace HttpCaching.Rules

open Directives

/-! ## 状態によらない書き込み -/

/-- 書き込みを受け入れるディレクティブの上での成功が、その状態によらず、役割を保つ書き込み。 -/
structure Steady (w : Directives → Except DirectiveError Directives) : Prop where
  congr : ∀ d d' : Directives, d.role ≠ .request → d'.role ≠ .request →
    (∃ x, w d = .ok x) → ∃ x, w d' = .ok x
  role : ∀ d x, w d = .ok x → x.role = d.role

theorem steady_set (n : String) (o : Operand) : Steady (·.set n o) where
  congr d d' hd hd' h := (set_isOk_iff hd').mpr ((set_isOk_iff hd).mp h)
  role d x h := by
    obtain ⟨-, -, a, -, rfl⟩ := set_ok h
    rfl

theorem steady_delete (n : String) : Steady (·.delete n) where
  congr _ d' _ hd' _ := ⟨_, delete_eq hd' n⟩
  role d x h := by
    obtain ⟨-, rfl⟩ := delete_ok h
    rfl

theorem steady_clear : Steady Directives.clear where
  congr _ d' _ hd' _ := ⟨_, clear_eq hd'⟩
  role d x h := by
    obtain ⟨-, rfl⟩ := clear_ok h
    rfl

theorem steady_update (ps : List Directive) : Steady (·.update ps) where
  congr d d' hd hd' h := by
    obtain ⟨x, hx⟩ := h
    rw [update_eq_map hd, Except.map_eq_ok] at hx
    obtain ⟨cs, hcs, -⟩ := hx
    exact ⟨_, by rw [update_eq_map hd', hcs]; rfl⟩
  role d x h := by
    obtain ⟨cs, -, rfl⟩ := update_ok h
    rfl

/-! ## 規則を当てる一歩 -/

namespace Applied

variable {a b : Applied}

@[simp] theorem note_directives (m : String) : (a.note m).directives = a.directives := by
  unfold note
  split <;> rfl

@[simp] theorem note_failure (m : String) : (a.note m).failure = a.failure := by
  unfold note
  split <;> rfl

theorem andThen_failure_eq_none {w : Directives → Except DirectiveError Directives} :
    (a.andThen w).failure = none ↔ a.failure = none ∧ ∃ x, w a.directives = .ok x := by
  unfold andThen
  split
  · rename_i e he
    simp [he]
  · rename_i he
    cases hw : w a.directives <;> simp [he]

theorem andThen_role {w : Directives → Except DirectiveError Directives} (hw : Steady w)
    (ha : a.directives.role ≠ .request) : (a.andThen w).directives.role ≠ .request := by
  unfold andThen
  split
  · exact ha
  · cases hx : w a.directives with
    | error e => exact ha
    | ok x => exact (hw.role _ _ hx).symm ▸ ha

/-- `a` は `b` と同じく書き込みを受け入れるディレクティブの上で働き、`b` より早く失敗しない。 -/
structure Follows (a b : Applied) : Prop where
  role : a.directives.role ≠ .request
  role' : b.directives.role ≠ .request
  failure : b.failure = none → a.failure = none

theorem Follows.note (h : Follows a b) (m m' : String) : Follows (a.note m) (b.note m') :=
  ⟨by simpa using h.role, by simpa using h.role', by simpa using h.failure⟩

theorem Follows.andThen (h : Follows a b) {w : Directives → Except DirectiveError Directives}
    (hw : Steady w) : Follows (a.andThen w) (b.andThen w) := by
  refine ⟨andThen_role hw h.role, andThen_role hw h.role', fun hb => ?_⟩
  obtain ⟨hbf, hbw⟩ := andThen_failure_eq_none.mp hb
  exact andThen_failure_eq_none.mpr ⟨h.failure hbf, hw.congr _ _ h.role' h.role hbw⟩

theorem Follows.foldl {α : Type} {f : Applied → α → Applied}
    (hf : ∀ a b x, Follows a b → Follows (f a x) (f b x)) (xs : List α) (h : Follows a b) :
    Follows (xs.foldl f a) (xs.foldl f b) := by
  induction xs generalizing a b with
  | nil => exact h
  | cons x xs ih => exact ih (hf a b x h)

end Applied

open Applied

/-- 置き換えは、新しい値を別の空の集まりで確かめ、通れば空にしてからまとめて書き込む。 -/
theorem replace_eq {a : Applied} (ha : a.failure = none) (v : String) :
    replace a v = match (empty .response).update (Field.read [v]) with
      | .error e => { a with failure := some e }
      | .ok _ => (a.andThen Directives.clear).andThen (·.update (Field.read [v])) := by
  obtain ⟨d, bound, wrote, failure, trace⟩ := a
  subst ha
  rfl

theorem replace_role {a : Applied} (ha : a.directives.role ≠ .request) (v : String) :
    (replace a v).directives.role ≠ .request := by
  unfold replace
  dsimp only
  split
  · exact ha
  · split
    · exact ha
    · exact andThen_role (steady_update _) (andThen_role steady_clear ha)

theorem Applied.Follows.replace {a b : Applied} (h : Follows a b) (v : String) :
    Follows (replace a v) (replace b v) := by
  refine ⟨replace_role h.role v, replace_role h.role' v, fun hb => ?_⟩
  -- 後ろが失敗していなければ、確かめは通っていて、前も失敗していない
  have hbf : b.failure = none := by
    cases hf : b.failure with
    | none => rfl
    | some e => simp [Rules.replace, hf] at hb
  rw [replace_eq hbf] at hb
  rw [replace_eq (h.failure hbf)]
  split
  · rename_i e hu
    rw [hu] at hb
    cases hb
  · rename_i x hu
    rw [hu] at hb
    exact ((h.andThen steady_clear).andThen (steady_update _)).failure hb

/-- 確かめが通る値での置き換えは、失敗していない書き込める集まりでは失敗しない。 -/
theorem replace_failure {a : Applied} (ha : a.failure = none) (hd : a.directives.role ≠ .request)
    {v : String} (hu : ∃ x, (empty .response).update (Field.read [v]) = .ok x) :
    (replace a v).failure = none := by
  obtain ⟨x, hx⟩ := hu
  rw [replace_eq ha, hx]
  refine andThen_failure_eq_none.mpr ⟨andThen_failure_eq_none.mpr ⟨ha, _, clear_eq hd⟩, ?_⟩
  exact (steady_update _).congr _ _ (by decide) (andThen_role steady_clear hd) ⟨x, hx⟩

/-! ## 規則を当てる -/

theorem applyTo_follows (r : Rule) {d : Directives} (hd : d.role ≠ .request) (bound : Bool) :
    Follows (r.applyTo d bound) (r.applyTo (empty .response) false) := by
  have hinit : Follows ⟨d, bound, false, none, #[]⟩ ⟨empty .response, false, false, none, #[]⟩ :=
    ⟨hd, by decide, fun _ => rfl⟩
  unfold Rule.applyTo
  dsimp only
  -- 値を入れる書き込みも除く書き込みも状態によらないので、同じ並びを続けても保たれる
  refine Follows.foldl ?_ _ (Follows.foldl ?_ _ ?_)
  · intro a b n h
    exact (h.note _ _).andThen (steady_delete n)
  · intro a b p h
    obtain ⟨n, v⟩ := p
    exact (h.note _ _).andThen (steady_set (Text.ofUtf8 n) _)
  -- 書き込みを始める前の枝
  by_cases ho : (!r.override.isEmpty) = true
  · simp only [ho, if_true]
    exact (hinit.note _ _).replace _
  · simp only [ho, if_false, Bool.false_eq_true]
    by_cases hf : (!r.fallback.isEmpty && d.size == 0) = true
    · have hf' : (!r.fallback.isEmpty && (empty .response).size == 0) = true := by
        simp only [Bool.and_eq_true] at hf ⊢
        exact ⟨hf.1, rfl⟩
      simp only [hf, hf', if_true]
      exact (hinit.note _ _).replace _
    · -- 集まりに当てる側は何もしていないので、まだ失敗していない
      simp only [hf, Bool.false_eq_true, if_false]
      refine ⟨hd, ?_, fun _ => rfl⟩
      split
      · exact replace_role (by decide) _
      · decide

theorem applyTo_failure {r : Rule} (hr : r.check = none) {d : Directives} (hd : d.role ≠ .request)
    (bound : Bool) : (r.applyTo d bound).failure = none :=
  (applyTo_follows r hd bound).failure hr

theorem validate_go_eq_none_iff (i : Nat) (rules : List Rule) :
    validate.go i rules = none ↔ ∀ r ∈ rules, r.check = none := by
  induction rules generalizing i with
  | nil => simp [validate.go]
  | cons r rs ih =>
    simp only [validate.go, List.mem_cons, forall_eq_or_imp]
    cases hr : r.check with
    | none => simpa using ih (i + 1)
    | some e => simp

theorem validate_eq_none_iff (rules : List Rule) :
    validate rules = none ↔ ∀ r ∈ rules, r.check = none :=
  validate_go_eq_none_iff 0 rules

theorem findTraced_mem (req : Http.Request) {rules : List Rule} {r : Rule}
    (h : (findTraced req rules).2 = some r) : r ∈ rules := by
  induction rules with
  | nil => simp [findTraced] at h
  | cons x xs ih =>
    simp only [findTraced] at h
    split at h
    · cases h
      exact List.mem_cons_self
    · exact List.mem_cons_of_mem _ (ih h)

theorem applyToHeader_failure (r : Rule) (h : Http.Header) :
    (r.applyToHeader h).failure = (r.applyTo (ofHeader h) true).failure := by
  unfold Rule.applyToHeader
  dsimp only
  split <;> rename_i hf <;> simp [hf]

theorem applyRules_failure {rules : List Rule} (hv : validate rules = none) (status : Int)
    (req : Http.Request) (h : Http.Header) : (applyRules rules status req h).failure = none := by
  unfold applyRules
  split
  · rfl
  · dsimp only
    split
    · rename_i checked r hfind
      have hr : r ∈ rules := findTraced_mem req (by rw [hfind])
      rw [applyToHeader_failure]
      exact applyTo_failure ((validate_eq_none_iff rules).mp hv r hr)
        (show Role.response ≠ .request by decide) true
    · rfl

/-! ## 保存した方針の規則 -/

theorem mem_insertByPrefix {r x : Rule} {l : List Rule} : x ∈ insertByPrefix r l ↔ x = r ∨ x ∈ l := by
  induction l with
  | nil => simp [insertByPrefix]
  | cons y ys ih =>
    simp only [insertByPrefix]
    split
    · simp only [List.mem_cons, ih]
      tauto
    · simp

theorem mem_foldl_insertByPrefix {x : Rule} (l acc : List Rule) :
    x ∈ l.foldl (fun acc r => insertByPrefix r acc) acc ↔ x ∈ l ∨ x ∈ acc := by
  induction l generalizing acc with
  | nil => simp
  | cons r rs ih =>
    simp only [List.foldl_cons, ih, mem_insertByPrefix, List.mem_cons]
    tauto

theorem mem_ofPolicies {ps : List Policy} {r : Rule} (h : r ∈ ofPolicies ps) :
    ∃ p ∈ ps, r = Rule.ofPolicy p := by
  rw [ofPolicies, mem_foldl_insertByPrefix] at h
  simpa [eq_comm] using h

@[simp] theorem TextMap.toList_empty : (∅ : TextMap).toList = [] := rfl

@[simp] theorem sortedSets_empty : sortedSets ∅ = [] := List.mergeSort_nil

theorem check_ofPolicy {p : Policy}
    (hp : ∃ t, Policy.canonicalize t = .ok p.cacheControl) : (Rule.ofPolicy p).check = none := by
  obtain ⟨t, ht⟩ := hp
  have hu : ∃ x, (empty .response).update (Field.read [p.cacheControl]) = .ok x := by
    have hc := Policy.canonicalize_canonicalize ht
    unfold Policy.canonicalize at hc
    split at hc
    · exact ⟨_, ‹_›⟩
    · cases hc
  dsimp only [Rule.check, Rule.applyTo, Rule.ofPolicy]
  simp only [Option.getD_none, sortedSets_empty, List.foldl_nil]
  split
  · exact replace_failure (by simp) (by simp only [note_directives]; decide) hu
  · -- 空の値の方針は何もしない
    rw [if_neg (by decide)]

/-! ## ミドルウェアの規則 -/

/-- 組み立てが成功すれば、設定の規則は検査を通っていて、ミドルウェアの規則はその後ろに保管庫の
方針の規則を足したもの。 -/
theorem create_rules {rules : List Rule} {policies : Option Policy.Listing} {n : Int}
    {m : Middleware.Layer} {logs : List Log.Entry}
    (h : Middleware.Layer.create rules policies n = .ok (m, logs)) :
    validate rules = none ∧ m.rules = rules ++ ofPolicies ((policies.map (·.policies)).getD []) := by
  unfold Middleware.Layer.create at h
  cases hv : validate rules with
  | some b => simp [hv, bind, Except.bind, throw, throwThe, MonadExceptOf.throw] at h
  | none =>
    refine ⟨rfl, ?_⟩
    cases policies with
    | none =>
      simp only [hv, bind, Except.bind, pure, Except.pure, Except.ok.injEq, Prod.mk.injEq] at h
      rw [← h.1]
      simp [ofPolicies]
    | some l =>
      cases hf : l.failure with
      | some e => simp [hv, hf, bind, Except.bind, throw, throwThe, MonadExceptOf.throw] at h
      | none =>
        simp only [hv, hf, bind, Except.bind, pure, Except.pure, Except.ok.injEq, Prod.mk.injEq] at h
        rw [← h.1]
        rfl

end HttpCaching.Rules

namespace HttpCaching.Middleware.Exchange

/-! ## 誤りの記録 -/

/-- `y` は `x` の記録を保ち、その後に誤りの水準より下の記録だけを足す。 -/
def Quiet (x y : Exchange) : Prop :=
  ∃ more, y.logs = x.logs ++ more ∧ ∀ e ∈ more, e.level ≠ .error

variable {x y z : Exchange}

theorem Quiet.refl (x : Exchange) : Quiet x x := ⟨[], by simp, by simp⟩

theorem Quiet.trans (hxy : Quiet x y) (hyz : Quiet y z) : Quiet x z := by
  obtain ⟨m, hm, hml⟩ := hxy
  obtain ⟨m', hm', hml'⟩ := hyz
  refine ⟨m ++ m', by rw [hm', hm, List.append_assoc], fun e he => ?_⟩
  rcases List.mem_append.mp he with he | he
  · exact hml e he
  · exact hml' e he

theorem Quiet.of_logs (h : y.logs = x.logs) : Quiet x y := ⟨[], by simp [h], by simp⟩

theorem quiet_record {level : Log.Level} (hl : level ≠ .error) (fields : List (String × Log.Value))
    (message : String) : Quiet x (x.record level fields message) :=
  ⟨[Log.Entry.within x.context level fields message], rfl, by simpa [Log.Entry.within] using hl⟩

theorem quiet_refresh (x : Exchange) : Quiet x x.refresh := by
  unfold refresh
  dsimp only
  split
  · exact .refl x
  · exact quiet_record (by decide) _ _

/-- 書き換えが失敗しない規則の並びなら、ヘッダーを書き出すときに規則を当てても、誤りの記録は
増えない。 -/
theorem quiet_applyRules {rules : List Rules.Rule} {status : Int}
    (hw : ∀ req h, (Rules.applyRules rules status req h).failure = none) :
    Quiet x (x.applyRules rules status) := by
  unfold applyRules
  extract_lets x1 before w x2 x3 x4 applied x5
  -- 書き換えは失敗しないので、誤りを記録する枝には入らない
  have h3 : x3 = x2 := by
    simp only [x3, w, hw]
  have h1 : Quiet x x1 := (Quiet.of_logs rfl).trans (quiet_refresh _)
  have h2 : Quiet x1 x3 := Quiet.of_logs (by rw [h3])
  have h4 : Quiet x x4 := h1.trans (h2.trans (quiet_refresh x3))
  have h5 : Quiet x x5 := by
    refine h4.trans ?_
    simp only [x5]
    split
    · exact quiet_record (by decide) _ _
    · exact .refl _
  exact h5.trans (quiet_record (by decide) _ _)

theorem Quiet.error_mem (h : Quiet x y) {e : Log.Entry} (he : e ∈ y.logs) (hl : e.level = .error) :
    e ∈ x.logs := by
  obtain ⟨m, hm, hml⟩ := h
  rw [hm] at he
  rcases List.mem_append.mp he with he | he
  · exact he
  · exact absurd hl (hml e he)

end HttpCaching.Middleware.Exchange

namespace HttpCaching.Rules

open Directives Middleware

/-! ## 検査の健全性 -/

/-- 規則の検査は健全。書き込みを受け付ける集まりでは、汎用の書き込みとまとめた書き込みが失敗
するか、どの誤りで失敗するかは中身によらず、除く書き込みと空にする書き込みは失敗しない。
そのため、検査を通った規則の並びのどの規則も、どんな状態の書き込める集まりに当てても失敗せず、
どの状態コード・要求・ヘッダーでも応答の書き換えは失敗しない。ミドルウェアを組み立てたとき、
保管庫の方針がどれも保存で作られた値 (ある値の正規形) なら、ミドルウェアの規則はすべて検査を
通り、ヘッダーを書き出すときに規則を当てても誤りの記録は増えない。 -/
theorem validate_sound :
    (∀ d d' : Directives, d.role ≠ .request → d'.role ≠ .request →
      (∀ n o e, d.set n o = .error e ↔ d'.set n o = .error e) ∧
      (∀ ps e, d.update ps = .error e ↔ d'.update ps = .error e) ∧
      (∀ n, ∃ x, d.delete n = .ok x) ∧ ∃ x, d.clear = .ok x) ∧
    (∀ rules, validate rules = none →
      (∀ r ∈ rules, ∀ d : Directives, d.role ≠ .request → ∀ bound,
        (r.applyTo d bound).failure = none) ∧
      ∀ status req h, (applyRules rules status req h).failure = none) ∧
    ∀ rules policies cacheSize (m : Layer) logs,
      Layer.create rules policies cacheSize = .ok (m, logs) →
      (∀ l, policies = some l → ∀ p ∈ l.policies, ∃ t, Policy.canonicalize t = .ok p.cacheControl) →
      validate m.rules = none ∧
      ∀ (x : Exchange) status, ∀ e ∈ (x.applyRules m.rules status).logs,
        e.level = .error → e ∈ x.logs := by
  refine ⟨fun d d' hd hd' => ⟨set_eq_error_congr hd hd', update_eq_error_congr hd hd',
      fun n => ⟨_, delete_eq hd n⟩, ⟨_, clear_eq hd⟩⟩,
    fun rules hv => ⟨fun r hr d hd bound =>
      applyTo_failure ((validate_eq_none_iff rules).mp hv r hr) hd bound,
      applyRules_failure hv⟩, ?_⟩
  intro rules policies cacheSize m logs hc hp
  obtain ⟨hv, hrules⟩ := create_rules hc
  -- 設定の規則は検査を通っていて、方針の規則はどれも正規形で上書きする規則
  have hm : validate m.rules = none := by
    rw [validate_eq_none_iff, hrules]
    intro r hr
    rcases List.mem_append.mp hr with hr | hr
    · exact (validate_eq_none_iff rules).mp hv r hr
    · obtain ⟨p, hp', rfl⟩ := mem_ofPolicies hr
      cases policies with
      | none => simp at hp'
      | some l => exact check_ofPolicy (hp l rfl p hp')
  exact ⟨hm, fun x status e he hl =>
    (Exchange.quiet_applyRules (applyRules_failure hm status)).error_mem he hl⟩

/-- 応答が空のときだけ値を入れ、`public` を足す規則は検査を通り、`no-store` のある応答に当てても
失敗しない。 -/
theorem validate_sound_fallback_rule :
    validate [⟨[], [], [], "max-age=60", "", some (TextMap.ofTexts [("public", "")]), none, none, none⟩] = none ∧
      (Rule.applyTo ⟨[], [], [], "max-age=60", "", some (TextMap.ofTexts [("public", "")]), none, none, none⟩
        (ofList .response [⟨"no-store", .flag⟩]) true).failure = none := by
  have hv : validate [⟨[], [], [], "max-age=60", "", some (TextMap.ofTexts [("public", "")]), none, none, none⟩] =
      none := by
    have h : (validate [⟨[], [], [], "max-age=60", "", some (TextMap.ofTexts [("public", "")]), none, none,
        none⟩]).isNone = true := by decide +kernel
    simpa using h
  exact ⟨hv, (validate_sound.2.1 _ hv).1 _ List.mem_cons_self _ (by decide) true⟩

end HttpCaching.Rules
