import HttpCaching.Proofs.Directive.Watch
/-!
# 書き込みの成否と、まとめた書き込み

書き込みを受け付ける集まり (要求のもの以外) では、汎用の書き込みが成功するか、どの誤りで
失敗するかは名前と値だけで決まり、集まりの中身にはよらない。検査は `accept` がし、書き込みは
その結果を表に保存するだけ (`set_eq_map`, `update_eq_map`)。ディレクティブを除く書き込みと
空にする書き込みは失敗しない。

まとめた書き込み `update` は、組を順に汎用の書き込みで入れたのと同じ表を作る
(`update_eq_foldlM`)。失敗するときは、それより前の組がどれも受け付けられる最初の組について、
汎用の書き込みが返す誤りを返す (`update_eq_error_iff`)。失敗した書き込みは集まりも見張り役も
そのままにし、成功したまとめた書き込みは見張り役に一度だけ知らせる。主な主張は
`update_eq_sets`。
-/
namespace HttpCaching

open HttpCaching.Field Directive

theorem Except.map_eq_error {ε α β : Type} {f : α → β} {x : Except ε α} {e : ε} :
    f <$> x = .error e ↔ x = .error e := by
  cases x <;> simp [Functor.map, Except.map]

theorem Except.map_eq_ok {ε α β : Type} {f : α → β} {x : Except ε α} {b : β} :
    f <$> x = .ok b ↔ ∃ a, x = .ok a ∧ f a = b := by
  cases x <;> simp [Functor.map, Except.map]

namespace Directives

/-! ## 汎用の書き込みの検査 -/

/-- 名前 `n` のもとへの `o` の汎用の書き込みが保存するもの (`none` はディレクティブを除く)、
または拒まれるわけ: 役割が書き込みを受け入れた後の `set` の検査。 -/
def accept (n : String) (o : Operand) : Except DirectiveError (Option Argument) :=
  if isToken (normalizeName n) then coerce (normalizeName n) o
  else .error (.badName (normalizeName n))

variable {d d' : Directives}

@[simp] theorem role_changed (e : Entries) : (d.changed e).role = d.role := rfl

@[simp] theorem changed_changed (e e' : Entries) : (d.changed e).changed e' = d.changed e' := rfl

theorem role_eq_false (h : d.role ≠ .request) : (d.role == .request) = false := by
  simpa using h

theorem set_eq_map (h : d.role ≠ .request) (n : String) (o : Operand) :
    d.set n o = (fun a => d.changed (store d.entries (normalizeName n) a)) <$> accept n o := by
  simp only [set, accept, role_eq_false h]
  by_cases ht : isToken (normalizeName n) = true
  · simp [ht, bind_pure_comp]
  · simp [ht, Functor.map, Except.map]

theorem set_eq_error_iff (h : d.role ≠ .request) {n : String} {o : Operand} {e : DirectiveError} :
    d.set n o = .error e ↔ accept n o = .error e := by
  rw [set_eq_map h, Except.map_eq_error]

theorem set_isOk_iff (h : d.role ≠ .request) {n : String} {o : Operand} :
    (∃ x, d.set n o = .ok x) ↔ ∃ a, accept n o = .ok a := by
  simp only [set_eq_map h, Except.map_eq_ok]
  constructor
  · rintro ⟨x, a, ha, -⟩
    exact ⟨a, ha⟩
  · rintro ⟨a, ha⟩
    exact ⟨_, a, ha, rfl⟩

theorem set_eq_error_congr (h : d.role ≠ .request) (h' : d'.role ≠ .request) (n : String)
    (o : Operand) (e : DirectiveError) : d.set n o = .error e ↔ d'.set n o = .error e := by
  rw [set_eq_error_iff h, set_eq_error_iff h']

theorem delete_eq (h : d.role ≠ .request) (n : String) :
    d.delete n = .ok (d.changed (d.entries.erase (normalizeName n))) := by
  simp [delete, role_eq_false h]

theorem clear_eq (h : d.role ≠ .request) : d.clear = .ok (d.changed Entries.empty) := by
  simp [Directives.clear, role_eq_false h]

/-! ## まとめた書き込み -/

theorem checkAll_cons (p : Directive) (ps : List Directive) :
    checkAll (p :: ps) = (do
      let a ← accept p.name (.argument p.arg)
      let rest ← checkAll ps
      pure ((normalizeName p.name, a) :: rest)) := by
  simp only [checkAll, accept]
  by_cases ht : isToken (normalizeName p.name) = true
  · simp [ht]
  · simp [ht]
    rfl

/-- 書き込みを受け付ける集まりへのまとめた書き込みは、すべての組を検査した結果を順に保存する。 -/
theorem update_eq_map (h : d.role ≠ .request) (ps : List Directive) :
    d.update ps = (fun cs => d.changed (cs.foldl (fun e p => store e p.1 p.2) d.entries)) <$>
      checkAll ps := by
  simp [update, role_eq_false h, bind_pure_comp]

theorem update_eq_error_congr (h : d.role ≠ .request) (h' : d'.role ≠ .request)
    (ps : List Directive) (e : DirectiveError) : d.update ps = .error e ↔ d'.update ps = .error e := by
  rw [update_eq_map h, update_eq_map h', Except.map_eq_error, Except.map_eq_error]

/-- 受け付けられる組から始まる列では、受け付けられない組はその後ろにしかない。 -/
theorem eq_cons_of_accepted {p q : Directive} {ps pre post : List Directive} {a : Option Argument}
    {e : DirectiveError} (ha : accept p.name (.argument p.arg) = .ok a)
    (hq : accept q.name (.argument q.arg) = .error e) (hs : p :: ps = pre ++ q :: post) :
    ∃ pre', pre = p :: pre' ∧ ps = pre' ++ q :: post := by
  rcases List.cons_eq_append_iff.mp hs with ⟨rfl, hqs⟩ | ⟨pre', rfl, hps⟩
  · obtain ⟨rfl, -⟩ := List.cons_eq_cons.mp hqs
    rw [ha] at hq
    cases hq
  · exact ⟨pre', rfl, hps⟩

/-- 検査は最初に受け付けられない組で止まり、その組の誤りを返す。 -/
theorem checkAll_eq_error_iff {ps : List Directive} {e : DirectiveError} :
    checkAll ps = .error e ↔ ∃ pre p post, ps = pre ++ p :: post ∧
      (∀ q ∈ pre, ∃ a, accept q.name (.argument q.arg) = .ok a) ∧
      accept p.name (.argument p.arg) = .error e := by
  induction ps with
  | nil => simp [checkAll]
  | cons p ps ih =>
    rw [checkAll_cons]
    cases ha : accept p.name (.argument p.arg) with
    | error e' =>
      -- 最初の組で止まる: 前に組がある分け方は、最初の組が受け付けられることと食い違う
      simp only [bind, Except.bind, Except.error.injEq]
      constructor
      · rintro rfl
        exact ⟨[], p, ps, rfl, by simp, ha⟩
      · rintro ⟨pre, q, post, hs, hpre, hq⟩
        rcases List.cons_eq_append_iff.mp hs with ⟨rfl, hqs⟩ | ⟨pre', rfl, -⟩
        · obtain ⟨rfl, -⟩ := List.cons_eq_cons.mp hqs
          rw [ha] at hq
          exact (Except.error.inj hq)
        · obtain ⟨a, ha'⟩ := hpre p List.mem_cons_self
          rw [ha] at ha'
          cases ha'
    | ok a =>
      -- 最初の組は受け付けられるので、止まる組は残りの組の中にあり、残りの検査が止まる所で止まる
      have tail : (∃ pre q post, p :: ps = pre ++ q :: post ∧
          (∀ r ∈ pre, ∃ a, accept r.name (.argument r.arg) = .ok a) ∧
          accept q.name (.argument q.arg) = .error e) ↔ checkAll ps = .error e := by
        rw [ih]
        constructor
        · rintro ⟨pre, q, post, hs, hpre, hq⟩
          obtain ⟨pre', rfl, hps⟩ := eq_cons_of_accepted ha hq hs
          exact ⟨pre', q, post, hps, fun r hr => hpre r (List.mem_cons_of_mem _ hr), hq⟩
        · rintro ⟨pre, q, post, rfl, hpre, hq⟩
          refine ⟨p :: pre, q, post, rfl, fun r hr => ?_, hq⟩
          rcases List.mem_cons.mp hr with rfl | hr
          · exact ⟨a, ha⟩
          · exact hpre r hr
      rw [tail]
      cases checkAll ps <;> simp [bind, Except.bind, pure, Except.pure]

/-- まとめた書き込みが失敗するのは、それより前の組がどれも汎用の書き込みで受け付けられる組が
汎用の書き込みで失敗するときで、誤りはその組のもの。 -/
theorem update_eq_error_iff (h : d.role ≠ .request) {ps : List Directive} {e : DirectiveError} :
    d.update ps = .error e ↔ ∃ pre p post, ps = pre ++ p :: post ∧
      (∀ q ∈ pre, ∃ x, d.set q.name (.argument q.arg) = .ok x) ∧
      d.set p.name (.argument p.arg) = .error e := by
  rw [update_eq_map h, Except.map_eq_error, checkAll_eq_error_iff]
  simp only [set_eq_error_iff h, set_isOk_iff h]

/-- まとめた書き込みは、組を順に汎用の書き込みで入れるのと同じ。途中で受け付けられない組が
あればその誤りで失敗し、組がなくても一度書き込んだことになる。 -/
theorem update_eq_foldlM (h : d.role ≠ .request) (ps : List Directive) :
    d.update ps = (fun x => x.changed x.entries) <$>
      ps.foldlM (fun x p => x.set p.name (.argument p.arg)) d := by
  induction ps generalizing d with
  | nil => rw [update_eq_map h]; rfl
  | cons p ps ih =>
    rw [update_eq_map h, checkAll_cons, List.foldlM_cons, set_eq_map h]
    cases ha : accept p.name (.argument p.arg) with
    | error e => rfl
    | ok a =>
      -- 最初の組を入れた集まりに、残りの組をまとめて書き込むのと同じ
      have h1 : (d.changed (store d.entries (normalizeName p.name) a)).role ≠ .request := h
      change _ = (fun x => x.changed x.entries) <$>
        ps.foldlM (fun x p => x.set p.name (.argument p.arg))
          (d.changed (store d.entries (normalizeName p.name) a))
      rw [← ih h1, update_eq_map h1]
      cases checkAll ps <;> rfl

@[simp] theorem perform_set (n : String) (o : Operand) : d.perform (.set n o) = d.written (d.set n o) :=
  rfl

@[simp] theorem perform_update (ps : List Directive) : d.perform (.update ps) = d.written (d.update ps) :=
  rfl

@[simp] theorem written_error (e : DirectiveError) : d.written (.error e) = ⟨.failed e, d, false⟩ := rfl

@[simp] theorem written_ok : d.written (.ok d') = ⟨.done, d', true⟩ := rfl

/-! ## 型付きの書き込み -/

section Typed

variable {n : String}

theorem role_ne_of_typed (hn : n ∈ d.role.typedWrites) : d.role ≠ .request := by
  intro h
  rw [h] at hn
  simp [Role.typedWrites] at hn

theorem set_of_typed (hn : n ∈ d.role.typedWrites) (o : Operand) :
    d.set n o = (fun a => d.changed (store d.entries n a)) <$> coerce n o := by
  obtain ⟨ht, hnn⟩ := Role.token_of_mem_typedWrites d.role n hn
  rw [set_eq_map (role_ne_of_typed hn), accept, hnn, if_pos ht]

theorem perform_setFields (hn : n ∈ d.role.typedWrites) (fs : List String) :
    d.perform (.setFields n fs) = d.written (d.setFields n fs) := by
  simp [perform, Call.available, hn]

theorem perform_setDelta (hn : n ∈ d.role.typedWrites) (age : Duration) :
    d.perform (.setDelta n age) = d.written (d.setDelta n age) := by
  simp [perform, Call.available, hn]

theorem perform_setFlag (hn : n ∈ d.role.typedWrites) (b : Bool) :
    d.perform (.setFlag n b) = ⟨.done, d.setFlag n b, true⟩ := by
  simp [perform, Call.available, hn]

theorem perform_remove (hn : n ∈ d.role.typedWrites) :
    d.perform (.remove n) = ⟨.done, d.remove n, true⟩ := by
  simp [perform, Call.available, hn]

theorem set_texts_eq_setFields (hn : n ∈ d.role.typedWrites) (hc : ArgumentClass.of n = .fields)
    {fs : List String} (hfs : fs ≠ []) : d.set n (.texts fs) = d.setFields n fs := by
  have hne : fs.isEmpty = false := List.isEmpty_eq_false_iff.mpr hfs
  rw [set_of_typed hn]
  by_cases hall : fs.all isToken = true
  · -- トークンには制御文字がなく、つないだテキストにもない
    have hctl : hasControl (", ".intercalate fs) = false :=
      hasControl_intercalate (by decide) fun f hf =>
        Argument.Accepted.hasControl_of_isToken (List.all_eq_true.mp hall f hf)
    simp [coerce, hc, hall, ofText, hctl, setFields, hne, Functor.map, Except.map, store]
  · simp [coerce, hc, hall, setFields, hne, Functor.map, Except.map]

/-- フィールド名の空の列では二つが分かれる: 汎用の書き込みは空のテキストを、型付きの書き込みは
引数なしを入れる。 -/
theorem set_texts_nil (hn : n ∈ d.role.typedWrites) (hc : ArgumentClass.of n = .fields) :
    d.set n (.texts []) = .ok (d.changed (d.entries.put ⟨n, .token ""⟩)) ∧
      d.setFields n [] = .ok (d.changed (d.entries.put ⟨n, .flag⟩)) := by
  have hctl : hasControl "" = false := by decide
  rw [set_of_typed hn]
  exact ⟨by simp [coerce, hc, ofText, hctl, Functor.map, Except.map, store], rfl⟩

theorem set_duration_eq_setDelta (hn : n ∈ d.role.typedWrites) (hc : ArgumentClass.of n = .delta)
    (age : Duration) : d.set n (.duration age) = d.setDelta n age := by
  rw [set_of_typed hn]
  by_cases hneg : age.ns < 0
  · simp [coerce, hneg, setDelta, Functor.map, Except.map]
  · -- 負でない時間の秒数は負でない
    have hsec : ¬age.seconds < 0 := Int64.not_lt.mpr (seconds_nonneg (Int64.not_lt.mp hneg))
    simp [coerce, hneg, hc, ofNumber, hsec, setDelta, Functor.map, Except.map, store]

theorem set_bool_eq_setFlag (hn : n ∈ d.role.typedWrites) (hc : ArgumentClass.of n = .flag)
    (b : Bool) : d.set n (.bool b) = .ok (d.setFlag n b) := by
  rw [set_of_typed hn]
  cases b <;> simp [coerce, hc, setFlag, Functor.map, Except.map, store]

theorem set_none_eq_remove (hn : n ∈ d.role.typedWrites) : d.set n .none = .ok (d.remove n) := by
  rw [set_of_typed hn]
  rfl

end Typed

end Directives

namespace Session

variable {s : Session} {t : Nat} {c c' : Call}

theorem set_getD_self (l : List Directives) (t : Nat) : l.set t (l.getD t default) = l := by
  by_cases ht : t < l.length
  · rw [List.getD_eq_getElem?_getD, List.getElem?_eq_getElem ht, Option.getD_some,
      List.set_getElem_self]
  · exact List.set_eq_of_length_le (by omega)

theorem step_congr (h : (s.objects.getD t default).perform c = (s.objects.getD t default).perform c') :
    s.step t c = s.step t c' := by
  unfold step
  dsimp only
  rw [h]

/-- 集まりを変えず聞かれもしない操作は、セッションを変えない。 -/
theorem step_of_unheard {r : Reply} (hr : r ≠ .copied)
    (h : (s.objects.getD t default).perform c = ⟨r, s.objects.getD t default, false⟩) :
    s.step t c = (s, ⟨r, s.objects.getD t default, [], s.field, none⟩) := by
  unfold step
  dsimp only
  rw [h]
  split
  · rename_i hc
    exact absurd hc hr
  · rw [set_getD_self]
    rfl

theorem step_objects (hr : ((s.objects.getD t default).perform c).reply ≠ .copied) :
    (s.step t c).1.objects = s.objects.set t ((s.objects.getD t default).perform c).after := by
  unfold step
  dsimp only
  split
  · rename_i hc
    exact absurd hc hr
  · rfl

/-! ## まとめた書き込みと見張り役 -/

/-- 書き込みを受け付ける集まりへのまとめた書き込みは、組を順に汎用の書き込みで入れた表を作り、
`provided` を立てる。失敗するのは、それより前の組がどれも受け付けられる組を汎用の書き込みが
受け付けないときで、誤りはその組のもの。失敗したまとめた書き込みも汎用の書き込みも、
セッション (集まりとその順序、`provided`、見張り役、ヘッダー) を何も変えず、知らせもない。
成功したまとめた書き込みはその集まりだけを置き換え、見張り役が知らせを記録するなら、
集まり 0 への書き込みをちょうど一度知らせる。 -/
theorem update_eq_sets (s : Session) (t : Nat) (ps : List Directive)
    (hd : (s.objects.getD t default).role ≠ .request) :
    let d := s.objects.getD t default
    d.update ps = (fun x => x.changed x.entries) <$>
        ps.foldlM (fun x p => x.set p.name (.argument p.arg)) d ∧
    (∀ e, d.update ps = .error e ↔ ∃ pre p post, ps = pre ++ p :: post ∧
        (∀ q ∈ pre, ∃ x, d.set q.name (.argument q.arg) = .ok x) ∧
        d.set p.name (.argument p.arg) = .error e) ∧
    (∀ e, d.update ps = .error e →
        s.step t (.update ps) = (s, ⟨.failed e, d, [], s.field, none⟩)) ∧
    (∀ d', d.update ps = .ok d' →
        (s.step t (.update ps)).1.objects = s.objects.set t d' ∧
        (s.step t (.update ps)).2.notices =
          if s.watcher = .notices ∧ t = 0 then [⟨d'.render, d'.role⟩] else []) ∧
    (∀ n o e, d.set n o = .error e →
        s.step t (.set n o) = (s, ⟨.failed e, d, [], s.field, none⟩)) := by
  intro d
  refine ⟨Directives.update_eq_foldlM hd ps, fun e => Directives.update_eq_error_iff hd,
    fun e he => step_of_unheard Reply.noConfusion (by rw [Directives.perform_update, he]; rfl),
    fun d' hu => ?_,
    fun n o e he => step_of_unheard Reply.noConfusion (by rw [Directives.perform_set, he]; rfl)⟩
  have ho : d.perform (.update ps) = ⟨.done, d', true⟩ := by rw [Directives.perform_update, hu]; rfl
  refine ⟨by rw [step_objects (by rw [ho]; exact Reply.noConfusion), ho], ?_⟩
  rw [step_notices, ho]
  by_cases hw : s.watcher = .notices <;> by_cases ht : t = 0 <;> simp [hw, ht]

/-- 応答の集まりへのまとめた書き込みで、二つ目の組 (引数のある `no-store`) を汎用の書き込みが
受け付けないので、まとめた書き込みはその誤りで失敗し、最初の組も入らず、知らせもない。 -/
theorem update_second_pair_refused :
    let s := start (Directives.empty .response) .notices
    (s.objects.getD 0 default).role ≠ .request ∧
      (s.objects.getD 0 default).set "no-store" (.argument (.token "x")) =
        .error (.rejected "no-store" (.argument (.token "x"))) ∧
      s.step 0 (.update [⟨"max-age", .int 5⟩, ⟨"no-store", .token "x"⟩]) =
        (s, ⟨.failed (.rejected "no-store" (.argument (.token "x"))), s.objects.getD 0 default, [],
          s.field, none⟩) := by
  intro s
  have hd : (s.objects.getD 0 default).role ≠ .request := by decide
  -- 二つの名前は型付きの書き込みの名前なので、正規形のトークン
  obtain ⟨hst, hsn⟩ := Role.token_of_mem_typedWrites .response "no-store" (by decide)
  obtain ⟨hmt, hmn⟩ := Role.token_of_mem_typedWrites .response "max-age" (by decide)
  have hset : (s.objects.getD 0 default).set "no-store" (.argument (.token "x")) =
      .error (.rejected "no-store" (.argument (.token "x"))) := by
    rw [Directives.set_eq_map hd, Directives.accept, hsn, if_pos hst]
    rfl
  have hmax : ∃ x, (s.objects.getD 0 default).set "max-age" (.argument (.int 5)) = .ok x := by
    rw [Directives.set_eq_map hd, Directives.accept, hmn, if_pos hmt]
    exact ⟨_, rfl⟩
  obtain ⟨-, herr, hstep, -, -⟩ :=
    update_eq_sets s 0 [⟨"max-age", .int 5⟩, ⟨"no-store", .token "x"⟩] hd
  refine ⟨hd, hset, hstep _ ((herr _).mpr ⟨[⟨"max-age", .int 5⟩], _, [], rfl, ?_, hset⟩)⟩
  intro q hq
  rw [List.mem_singleton.mp hq]
  exact hmax

/-! ## 型付きの書き込みと同じ一歩 -/

/-- 型付きの書き込みがある名前では、汎用の書き込みは型付きの書き込みと同じ一歩になり、答え、
集まり、知らせ、ヘッダーがどれも同じ: フィールド一覧に一つ以上のフィールド名を渡すとき
(トークンでない名前があればどちらも同じ誤りで失敗する)、delta-seconds に時間を、存在だけの
ものに真偽を渡すとき、値なしと型付きの削除。フィールド名の空の列だけが違い、汎用の書き込みは
空のテキストを、型付きの書き込みは引数なしを入れる。 -/
theorem set_eq_typed (s : Session) (t : Nat) :
    let d := s.objects.getD t default
    (∀ n ∈ d.role.typedWrites, ArgumentClass.of n = .fields → ∀ fs, fs ≠ [] →
        s.step t (.set n (.texts fs)) = s.step t (.setFields n fs)) ∧
    (∀ n ∈ d.role.typedWrites, ArgumentClass.of n = .delta → ∀ age,
        s.step t (.set n (.duration age)) = s.step t (.setDelta n age)) ∧
    (∀ n ∈ d.role.typedWrites, ArgumentClass.of n = .flag → ∀ b,
        s.step t (.set n (.bool b)) = s.step t (.setFlag n b)) ∧
    (∀ n ∈ d.role.typedWrites, s.step t (.set n .none) = s.step t (.remove n)) ∧
    (∀ n ∈ d.role.typedWrites, ArgumentClass.of n = .fields →
        d.perform (.set n (.texts [])) = ⟨.done, d.changed (d.entries.put ⟨n, .token ""⟩), true⟩ ∧
        d.perform (.setFields n []) = ⟨.done, d.changed (d.entries.put ⟨n, .flag⟩), true⟩) := by
  intro d
  refine ⟨fun n hn hc fs hfs => step_congr ?_, fun n hn hc age => step_congr ?_,
    fun n hn hc b => step_congr ?_, fun n hn => step_congr ?_, fun n hn hc => ?_⟩
  · rw [Directives.perform_set, Directives.perform_setFields hn,
      Directives.set_texts_eq_setFields hn hc hfs]
  · rw [Directives.perform_set, Directives.perform_setDelta hn,
      Directives.set_duration_eq_setDelta hn hc]
  · rw [Directives.perform_set, Directives.perform_setFlag hn, Directives.set_bool_eq_setFlag hn hc]
    rfl
  · rw [Directives.perform_set, Directives.perform_remove hn, Directives.set_none_eq_remove hn]
    rfl
  · obtain ⟨hset, hfields⟩ := Directives.set_texts_nil hn hc
    rw [Directives.perform_set, Directives.perform_setFields hn, hset, hfields]
    exact ⟨rfl, rfl⟩

/-- 応答の集まりの `private`: 一つのフィールド名なら汎用の書き込みは型付きの書き込みと同じ一歩で、
空の列なら汎用の書き込みは空のテキストを、型付きの書き込みは引数なしを入れる。 -/
theorem set_private_as_typed :
    let s := start (Directives.empty .response) .notices
    "private" ∈ (s.objects.getD 0 default).role.typedWrites ∧
      ArgumentClass.of "private" = .fields ∧
      s.step 0 (.set "private" (.texts ["Set-Cookie"])) =
        s.step 0 (.setFields "private" ["Set-Cookie"]) ∧
      (s.objects.getD 0 default).perform (.set "private" (.texts [])) =
        ⟨.done, (s.objects.getD 0 default).changed
          ((s.objects.getD 0 default).entries.put ⟨"private", .token ""⟩), true⟩ ∧
      (s.objects.getD 0 default).perform (.setFields "private" []) =
        ⟨.done, (s.objects.getD 0 default).changed
          ((s.objects.getD 0 default).entries.put ⟨"private", .flag⟩), true⟩ := by
  intro s
  have hn : "private" ∈ (s.objects.getD 0 default).role.typedWrites := by decide
  have hc : ArgumentClass.of "private" = .fields := rfl
  obtain ⟨hfields, -, -, -, hnil⟩ := set_eq_typed s 0
  exact ⟨hn, hc, hfields _ hn hc _ (List.cons_ne_nil _ _), hnil _ hn hc⟩

end Session

end HttpCaching
