import Mathlib
import HttpCaching.Proofs.Rules.Validate
import HttpCaching.Proofs.Text.Utf8
/-!
# 規則を当てた結果

規則を当てる過程 (`Applied`) は、失敗で止まる書き込みの列として読める (`Applied.result`)。
`note` は結果を変えず、`andThen` は `Except` の `>>=` と同じ。そこで規則を当てた結果は、
最初の一歩のあとに `Rule.edits` (`set` を名前の順に、`delete` を並びの順に) を続けた
`Except` の計算と同じになる。

`override` があれば、最初の一歩は新しい応答の集まりに値をまとめて書き込むことと同じで、
結果は集まりの最初の中身によらない。`override` がなければ、集まりが空のときだけ `default` を
同じように書き込む。置き換えは値を別の空の集まりで確かめてから空にするので、確かめが通らなければ
集まりも、結びついたヘッダーも、見張り役 (ヘッダーの書き直しとその記録) も元のまま。

主な主張は `apply_rule_semantics`。
-/
namespace HttpCaching.Rules

open Directives

/-! ## 止まる書き込みの列 -/

namespace Applied

/-- 規則を当てて残ったものを結果として読んだもの: それを止めた失敗、
またはそれが達したディレクティブ。 -/
def result (a : Applied) : Except DirectiveError Directives :=
  match a.failure with
  | some e => .error e
  | none => .ok a.directives

variable {a : Applied}

theorem result_of_failure {e : DirectiveError} (h : a.failure = some e) : a.result = .error e := by
  simp [result, h]

theorem result_of_none (h : a.failure = none) : a.result = .ok a.directives := by
  simp [result, h]

@[simp] theorem result_note (m : String) : (a.note m).result = a.result := by
  simp only [result, note_failure, note_directives]

theorem result_andThen (w : Directives → Except DirectiveError Directives) :
    (a.andThen w).result = a.result >>= w := by
  unfold andThen
  cases hf : a.failure with
  | some e => simp [result_of_failure hf, bind, Except.bind]
  | none =>
    rw [result_of_none hf]
    show _ = w a.directives
    cases w a.directives <;> rfl

/-- 書き込みを一つずつ続ける畳み込みは、結果に `foldlM` を続けるのと同じ。 -/
theorem result_foldl {α : Type} {f : Applied → α → Applied}
    {g : α → Directives → Except DirectiveError Directives}
    (hf : ∀ a x, (f a x).result = a.result >>= g x) (xs : List α) (a : Applied) :
    (xs.foldl f a).result = a.result >>= fun d => xs.foldlM (fun d x => g x d) d := by
  induction xs generalizing a with
  | nil => simp
  | cons x xs ih =>
    rw [List.foldl_cons, ih, hf, bind_assoc]
    rfl

/-- 失敗で止まった過程は、どの書き込みを続けても変わらない。 -/
theorem foldl_of_failure {α : Type} {f : Applied → α → Applied}
    (hf : ∀ a x, a.failure ≠ none → f a x = a) (xs : List α) (ha : a.failure ≠ none) :
    xs.foldl f a = a := by
  induction xs with
  | nil => rfl
  | cons x xs ih => rw [List.foldl_cons, hf a x ha, ih]

end Applied

open Applied

/-! ## 置き換え -/

theorem update_clear_eq {d : Directives} (hd : d.role = .response) (ps : List Directive) :
    (d.changed Entries.empty).update ps = (empty .response).update ps := by
  have hd' : (d.changed Entries.empty).role ≠ .request := by simp [hd]
  rw [update_eq_map hd', update_eq_map (by decide)]
  obtain ⟨role, entries, provided⟩ := d
  subst hd
  rfl

theorem result_replace {a : Applied} (ha : a.failure = none) (hd : a.directives.role = .response)
    (v : String) : (replace a v).result = (empty .response).update (Field.read [v]) := by
  rw [replace_eq ha]
  split
  · rename_i e hu
    rw [hu]
    rfl
  · rename_i x hu
    rw [result_andThen, result_andThen, result_of_none ha]
    show a.directives.clear >>= (fun y => y.update (Field.read [v])) = _
    rw [clear_eq (by simp [hd])]
    exact update_clear_eq hd _

/-! ## 名前の順 -/

/-- `set` の並べ替えの比べ方で並べた列は、その比べ方で整列している。 -/
theorem pairwise_mergeSort_bytes (l : List (List Nat × List Nat)) :
    (l.mergeSort fun a b => Text.compareBytes a.1 b.1 != .gt).Pairwise
      fun a b => (Text.compareBytes a.1 b.1 != .gt) = true :=
  List.pairwise_mergeSort
    (fun a b c hab hbc => by
      simpa using Text.compareBytes_ne_gt_trans (by simpa using hab) (by simpa using hbc))
    (fun a b => Text.compareBytes_total _ _) l

/-- 規則の `set` の並べ方: 写像の項目を並べ替えたもので、名前はバイト列の辞書順に並ぶ。 -/
theorem sortedSets_spec (sets : TextMap) :
    ((sortedSets sets).map (·.1)).Pairwise (fun a b => Text.compareBytes a b ≠ .gt) ∧
      (sortedSets sets).Perm sets.toList := by
  refine ⟨?_, List.mergeSort_perm _ _⟩
  rw [List.pairwise_map]
  exact (pairwise_mergeSort_bytes sets.toList).imp fun h => by simpa using h

/-! ## 規則の書き込み -/

/-- 最初の一歩の後の規則の書き込み: 置く項目それぞれを名前のバイト順で (空の値は裸のディレクティブを
置く)、それから除くものそれぞれを順に。最初に拒まれたもので止まる。 -/
def Rule.edits (r : Rule) (d : Directives) : Except DirectiveError Directives := do
  let d ← (sortedSets (r.set.getD ∅)).foldlM (fun d p => d.set (Text.ofUtf8 p.1) (setOperand p.2)) d
  (r.delete.getD []).foldlM (fun d n => d.delete n) d

/-- 最初の一歩のあとの `set` と `delete` の畳み込みは、結果に `Rule.edits` を続けるのと同じ。 -/
theorem result_edits (r : Rule) (a : Applied) :
    ((r.delete.getD []).foldl (fun a n => (a.note ("Deleting directive " ++ n)).andThen (·.delete n))
      ((sortedSets (r.set.getD ∅)).foldl (fun a (n, v) =>
        (a.note ("Setting directive " ++ Text.ofUtf8 n)).andThen
          (·.set (Text.ofUtf8 n) (setOperand v))) a)).result =
      a.result >>= r.edits := by
  rw [result_foldl (g := fun n d => d.delete n) (fun a n => by rw [result_andThen, result_note]),
    result_foldl (g := fun p d => d.set (Text.ofUtf8 p.1) (setOperand p.2))
      (fun a p => by obtain ⟨n, v⟩ := p; rw [result_andThen, result_note]), bind_assoc]
  rfl

theorem result_start (d : Directives) (b : Bool) :
    (⟨d, b, false, none, #[]⟩ : Applied).result = .ok d := rfl

/-- `override` のある規則を応答の集まりに当てた結果は、新しい応答の集まりに `override` を
まとめて書き込み、そのあと規則の書き込みを続けたものと同じ。 -/
theorem result_applyTo_override (r : Rule) {d : Directives} (hd : d.role = .response)
    (ho : r.override ≠ "") (b : Bool) :
    (r.applyTo d b).result = (empty .response).update (Field.read [r.override]) >>= r.edits := by
  have ho' : (!r.override.isEmpty) = true := by simpa using ho
  unfold Rule.applyTo
  simp only [ho', if_true]
  rw [result_edits, result_replace (by simp) (by simpa using hd)]

/-- `override` のない規則を応答の集まりに当てた結果は、集まりが空で `default` があるときだけ
新しい応答の集まりに `default` をまとめて書き込み、そのあと規則の書き込みを続けたもの。 -/
theorem result_applyTo_fallback (r : Rule) {d : Directives} (hd : d.role = .response)
    (ho : r.override = "") (b : Bool) :
    (r.applyTo d b).result =
      (if r.fallback ≠ "" ∧ d.size = 0 then (empty .response).update (Field.read [r.fallback])
        else .ok d) >>= r.edits := by
  have ho' : (!r.override.isEmpty) = false := by simp [ho]
  unfold Rule.applyTo
  simp only [ho', Bool.false_eq_true, if_false]
  by_cases hf : r.fallback ≠ "" ∧ d.size = 0
  · have hf' : (!r.fallback.isEmpty && d.size == 0) = true := by simpa using hf
    rw [if_pos hf, if_pos hf', result_edits, result_replace (by simp) (by simpa using hd)]
  · have hf' : (!r.fallback.isEmpty && d.size == 0) = false := by simpa using hf
    rw [if_neg hf, if_neg (by simp [hf']), result_edits, result_start]

/-! ## 確かめが通らない置き換え -/

/-- 確かめが通らない置き換えは、失敗を記すだけで集まりに触れない。 -/
theorem replace_of_error {a : Applied} (ha : a.failure = none) {v : String} {e : DirectiveError}
    (hu : (empty .response).update (Field.read [v]) = .error e) :
    replace a v = { a with failure := some e } := by
  rw [replace_eq ha, hu]

/-- 失敗で止まった過程には、規則の書き込みは何もしない。 -/
theorem edits_of_failure (r : Rule) {a : Applied} (ha : a.failure ≠ none) :
    (r.delete.getD []).foldl (fun a n => (a.note ("Deleting directive " ++ n)).andThen (·.delete n))
      ((sortedSets (r.set.getD ∅)).foldl (fun a (n, v) =>
        (a.note ("Setting directive " ++ Text.ofUtf8 n)).andThen
          (·.set (Text.ofUtf8 n) (setOperand v))) a) = a := by
  have hstop : ∀ (m : String) (w : Directives → Except DirectiveError Directives) (a : Applied),
      a.failure ≠ none → (a.note m).andThen w = a := by
    intro m w a ha
    obtain ⟨e, he⟩ := Option.ne_none_iff_exists'.mp ha
    simp [Applied.note, Applied.andThen, he]
  rw [foldl_of_failure (fun a p hp => by obtain ⟨n, v⟩ := p; exact hstop _ _ a hp) _ ha,
    foldl_of_failure (fun a n hn => hstop _ _ a hn) _ ha]

/-- `override` の値を確かめが通さなければ、規則を当てた過程は集まりを変えず、書き込みもせず
(見張り役は呼ばれない)、その失敗で止まり、記録は試みた一歩だけ。 -/
theorem applyTo_of_override_error (r : Rule) (d : Directives) (b : Bool) {e : DirectiveError}
    (ho : r.override ≠ "") (hu : (empty .response).update (Field.read [r.override]) = .error e) :
    r.applyTo d b = ⟨d, b, false, some e, #[note "Overriding Cache-Control header"]⟩ := by
  have ho' : (!r.override.isEmpty) = true := by simpa using ho
  unfold Rule.applyTo
  simp only [ho', if_true]
  rw [replace_of_error rfl hu, edits_of_failure r (by simp)]
  rfl

/-- `default` を使う集まりで、その値を確かめが通さなければ、規則を当てた過程は集まりを変えず、
書き込みもせず、その失敗で止まり、記録は試みた一歩だけ。 -/
theorem applyTo_of_fallback_error (r : Rule) (d : Directives) (b : Bool) {e : DirectiveError}
    (ho : r.override = "") (hf : r.fallback ≠ "") (hs : d.size = 0)
    (hu : (empty .response).update (Field.read [r.fallback]) = .error e) :
    r.applyTo d b = ⟨d, b, false, some e, #[note "Applying default Cache-Control header"]⟩ := by
  have ho' : (!r.override.isEmpty) = false := by simp [ho]
  have hf' : (!r.fallback.isEmpty && d.size == 0) = true := by simp [hf, hs]
  unfold Rule.applyTo
  simp only [ho', Bool.false_eq_true, if_false, hf', if_true]
  rw [replace_of_error rfl hu, edits_of_failure r (by simp)]
  rfl

/-- 書き込まずに失敗した規則は、応答ヘッダーを元のまま返す。 -/
theorem applyToHeader_of_unwritten (r : Rule) (h : Http.Header) {e : DirectiveError}
    (hw : (r.applyTo (ofHeader h) true).wrote = false)
    (hf : (r.applyTo (ofHeader h) true).failure = some e) :
    r.applyToHeader h = ⟨h, some e, (r.applyTo (ofHeader h) true).trace.toList⟩ := by
  unfold Rule.applyToHeader
  simp only [hw, hf, Bool.not_false, if_true]

/-! ## 主な主張 -/

/-- 規則を応答の集まりに当てると、`override` があれば、結果は集まりの最初の中身によらず、新しい
応答の集まりに `override` を読んだ組をまとめて書き込み、`set` の項目を名前のバイト列の順に
(空の値は引数なしとして) 書き、`delete` の名前を順に除いたものになる。`override` がなければ、
`default` を書き込むのは集まりが空のときだけで、そのあと同じ `set` と `delete` が続く。
置き換えの値を確かめが通さなければ、集まりは元のまま、書き込みもなく (見張り役は呼ばれない)、
その失敗で止まって記録は試みた一歩だけで、結びついたヘッダーも元のまま。`set` の並びは、
元の項目を名前のバイト列の辞書順に並べたもの。 -/
theorem apply_rule_semantics (r : Rule) :
    (∀ d b, d.role = .response → r.override ≠ "" →
      (r.applyTo d b).result = (empty .response).update (Field.read [r.override]) >>= r.edits) ∧
    (∀ d d' b b', d.role = .response → d'.role = .response → r.override ≠ "" →
      (r.applyTo d b).result = (r.applyTo d' b').result) ∧
    (∀ d b, d.role = .response → r.override = "" →
      (r.applyTo d b).result =
        (if r.fallback ≠ "" ∧ d.size = 0 then (empty .response).update (Field.read [r.fallback])
          else .ok d) >>= r.edits) ∧
    (∀ d b e, r.override ≠ "" → (empty .response).update (Field.read [r.override]) = .error e →
      r.applyTo d b = ⟨d, b, false, some e, #[note "Overriding Cache-Control header"]⟩) ∧
    (∀ d b e, r.override = "" → r.fallback ≠ "" → d.size = 0 →
      (empty .response).update (Field.read [r.fallback]) = .error e →
      r.applyTo d b = ⟨d, b, false, some e, #[note "Applying default Cache-Control header"]⟩) ∧
    (∀ h e, (r.override ≠ "" ∧ (empty .response).update (Field.read [r.override]) = .error e) ∨
        (r.override = "" ∧ r.fallback ≠ "" ∧ (ofHeader h).size = 0 ∧
          (empty .response).update (Field.read [r.fallback]) = .error e) →
      r.applyToHeader h = ⟨h, some e, (r.applyTo (ofHeader h) true).trace.toList⟩) ∧
    (((sortedSets (r.set.getD ∅)).map (·.1)).Pairwise (fun a b => Text.compareBytes a b ≠ .gt) ∧
      (sortedSets (r.set.getD ∅)).Perm (r.set.getD ∅).toList) := by
  refine ⟨fun d b hd ho => result_applyTo_override r hd ho b,
    fun d d' b b' hd hd' ho => ?_, fun d b hd ho => result_applyTo_fallback r hd ho b,
    fun d b e ho hu => applyTo_of_override_error r d b ho hu,
    fun d b e ho hf hs hu => applyTo_of_fallback_error r d b ho hf hs hu,
    fun h e hfirst => ?_, sortedSets_spec _⟩
  · rw [result_applyTo_override r hd ho, result_applyTo_override r hd' ho]
  · -- どちらの枝でも、規則を当てた過程は書き込まずにその失敗で止まる
    have ha : (r.applyTo (ofHeader h) true).wrote = false ∧
        (r.applyTo (ofHeader h) true).failure = some e := by
      rcases hfirst with ⟨ho, hu⟩ | ⟨ho, hf, hs, hu⟩
      · rw [applyTo_of_override_error r _ true ho hu]
        exact ⟨rfl, rfl⟩
      · rw [applyTo_of_fallback_error r _ true ho hf hs hu]
        exact ⟨rfl, rfl⟩
    exact applyToHeader_of_unwritten r h ha.1 ha.2

/-- `max-age=60` のヘッダーに、`no-store` で置き換えて `must-revalidate` を除く規則を当てた結果は、
空の集まりに当てた結果と同じ。`max-age=later` で置き換える規則は、`max-age` の引数を受け付けず、
ヘッダーを元のまま残して、記録は置き換えの一歩だけ。 -/
theorem override_rule_on_cache_control_header :
    let h := Http.Header.empty.set "Cache-Control" "max-age=60"
    (({ (default : Rule) with override := "no-store", delete := some ["must-revalidate"] }).applyTo
        (ofHeader h) true).result =
      (({ (default : Rule) with override := "no-store", delete := some ["must-revalidate"] }).applyTo
        (empty .response) false).result ∧
    ({ (default : Rule) with override := "max-age=later" }).applyToHeader h =
      ⟨h, some (.rejected "max-age" (.argument (.token "later"))),
        [note "Overriding Cache-Control header"]⟩ := by
  intro h
  have hread : Field.read ["max-age=later"] = [⟨"max-age", .token "later"⟩] := by decide +kernel
  obtain ⟨hst, hsn⟩ := Role.token_of_mem_typedWrites .response "max-age" (by decide)
  have hset : (empty .response).set "max-age" (.argument (.token "later")) =
      .error (.rejected "max-age" (.argument (.token "later"))) := by
    rw [set_eq_map (by decide), accept, hsn, if_pos hst]
    rfl
  have hu : (empty .response).update (Field.read ["max-age=later"]) =
      .error (.rejected "max-age" (.argument (.token "later"))) :=
    (update_eq_error_iff (by decide)).mpr ⟨[], _, [], hread, by simp, hset⟩
  obtain ⟨-, -, -, hover, -, hhead, -⟩ :=
    apply_rule_semantics { (default : Rule) with override := "max-age=later" }
  refine ⟨(apply_rule_semantics _).2.1 _ _ _ _ rfl rfl (by decide), ?_⟩
  rw [hhead _ _ (Or.inl ⟨by decide, hu⟩), hover _ _ _ (by decide) hu]

end HttpCaching.Rules
