import HttpCaching.Directive.Session
import HttpCaching.Proofs.Directive.Table
/-!
# 見張り役と結びついたヘッダー

操作の列を通して、最初の集まり (番号 0) の見張り役が何を聞き、`provided` がいつ立ち、
結びついたヘッダーがどう変わるか。

* 知らせは、集まり 0 への書き込みが成功した操作ごとにちょうど一つ。失敗した書き込み、読む操作、
  `reset`、複製、ほかの集まりへの操作では知らせはない。知らせには書き込んだ直後の値と、
  集まり 0 を作ったときの役割が載る。`provided` は、作るときにディレクティブがあったか、
  集まり 0 への書き込みが成功したか、ディレクティブを残す `reset` があったときに限って立ち、
  一度立てば下りない (`notices_provided_of_run`)。
* ヘッダーに結びついた集まりでは、結びつけてもヘッダーは変わらない。書き込みが成功するたびに
  Cache-Control フィールドは集まり 0 の値一つになり、ディレクティブがなければ消える。それ以外の
  操作ではヘッダーは変わらず、ほかのフィールドにはいつも触れない (`field_of_bound_run`)。
  値が空になるのはディレクティブがないときだけ: 届く集まりに名前が空のディレクティブはない。

どれも一歩についての補題 (`step_*`) を、操作の列への帰納法 (`run_*`) で広げて示す。
-/
namespace HttpCaching

/-! ## ヘッダーの一つのフィールドを書く -/

namespace Http.Header

theorem field?_eq_find? (h : Header) (name : String) :
    h.field? name = (h.fields.find? (·.1 == canonicalName name)).map (·.2) := by
  unfold field? contains values
  cases hf : h.fields.find? (·.1 == canonicalName name) with
  | none =>
    have : h.fields.any (·.1 == canonicalName name) = false := by
      simpa using List.find?_eq_none.mp hf
    simp [this]
  | some x =>
    have hx := List.find?_some hf
    have : h.fields.any (·.1 == canonicalName name) = true :=
      List.any_eq_true.mpr ⟨x, List.mem_of_find?_eq_some hf, hx⟩
    simp [this]

/-- フィールドは、正規形の名前がそれである項目だけから読まれる。 -/
theorem field?_eq_of_filter {h h' : Header} {name : String}
    (hf : h.fields.filter (·.1 == canonicalName name) = h'.fields.filter (·.1 == canonicalName name)) :
    h.field? name = h'.field? name := by
  rw [field?_eq_find?, field?_eq_find?, ← List.head?_filter, ← List.head?_filter, hf]

/-- 一つのフィールドの値を置き換えても、項目の名前はどれも変わらない。 -/
theorem comp_replace (p : String → Bool) (k : String) (vs : List String) :
    ((fun f : String × List String => p f.1) ∘ fun f => if f.1 == k then (f.1, vs) else f) =
      fun f => p f.1 := by
  funext f
  by_cases hf : f.1 = k <;> simp [hf]

theorem field?_erase (h : Header) (name : String) : (h.erase name).field? name = none := by
  simp [field?, contains, erase]

theorem field?_set (h : Header) (name value : String) :
    (h.set name value).field? name = some [value] := by
  unfold set
  dsimp only
  split
  · rename_i hk
    -- 置き換えは名前を変えないので、最初に見つかるのは置き換えた項目
    obtain ⟨x, hx⟩ := Option.isSome_iff_exists.mp (List.find?_isSome.mpr (List.any_eq_true.mp hk))
    have hxk : x.1 = canonicalName name := by simpa using List.find?_some hx
    rw [field?_eq_find?, List.find?_map, comp_replace (· == canonicalName name), hx]
    simp [hxk]
  · rename_i hk
    have : h.fields.find? (·.1 == canonicalName name) = none :=
      List.find?_eq_none.mpr fun x hx hxk => hk (List.any_eq_true.mpr ⟨x, hx, hxk⟩)
    simp [field?_eq_find?, List.find?_append, this]

variable {name other : String}

theorem field?_erase_of_ne (h : Header) (hne : canonicalName other ≠ canonicalName name) :
    (h.erase name).field? other = h.field? other := by
  refine field?_eq_of_filter ?_
  simp only [erase, List.filter_filter]
  refine List.filter_congr fun x _ => ?_
  by_cases hx : x.1 = canonicalName other <;> simp [hx, hne]

theorem field?_set_of_ne (h : Header) (value : String)
    (hne : canonicalName other ≠ canonicalName name) :
    (h.set name value).field? other = h.field? other := by
  refine field?_eq_of_filter ?_
  unfold set
  dsimp only
  split
  · rw [List.filter_map, comp_replace (· == canonicalName other)]
    -- 残る項目は置き換えの対象ではない
    refine (List.map_congr_left fun x hx => ?_).trans (List.map_id _)
    have hxk : x.1 = canonicalName other := by simpa using (List.mem_filter.mp hx).2
    simp [hxk, hne]
  · simp [List.filter_append, Ne.symm hne]

end Http.Header

/-! ## 値が空になるとき -/

theorem Directive.name_eq_empty_of_render {d : Directive} (h : d.render = "") : d.name = "" := by
  unfold Directive.render at h
  split at h
  · exact h
  · simp [String.append_eq_empty_iff] at h
  · simp [String.append_eq_empty_iff] at h

theorem Entries.render_eq_empty_iff {e : Entries} (h : "" ∉ e.names) :
    e.render = "" ↔ e.size = 0 := by
  rw [Entries.size_eq]
  unfold Entries.render
  have hnames := Entries.names_eq e
  cases hl : e.toList with
  | nil => simp
  | cons x l =>
    have hx : x.name ≠ "" := fun hx => h (by rw [hnames, hl]; simp [hx])
    -- 最初の項目の書き方が値の先頭にある
    have hhead : ∀ rest : List String, ", ".intercalate (x.render :: rest) = "" → x.render = "" := by
      intro rest hr
      cases rest with
      | nil => simpa using hr
      | cons y rest => simp [String.intercalate_cons_cons, String.append_eq_empty_iff] at hr
    simp only [List.map_cons, List.length_cons, Nat.add_one_ne_zero, iff_false]
    exact fun hr => hx (Directive.name_eq_empty_of_render (hhead _ hr))

namespace Directives

variable {d : Directives}

theorem syncHeader_of_named (h : "" ∉ d.names) (hdr : Http.Header) :
    d.syncHeader hdr = if d.size = 0 then hdr.erase boundField else hdr.set boundField d.render := by
  have hr : d.render.isEmpty = true ↔ d.size = 0 :=
    String.isEmpty_iff.trans (Entries.render_eq_empty_iff h)
  simp only [syncHeader, hr]

theorem canonicalName_boundField : Http.canonicalName boundField = boundField := by decide

/-- 結びついたフィールドを書き直しても、ほかのフィールドには触れない。 -/
theorem syncHeader_field?_of_ne (d : Directives) (hdr : Http.Header) {name : String}
    (hne : Http.canonicalName name ≠ boundField) :
    (d.syncHeader hdr).field? name = hdr.field? name := by
  rw [← canonicalName_boundField] at hne
  unfold syncHeader
  split
  · exact hdr.field?_erase_of_ne hne
  · exact hdr.field?_set_of_ne _ hne

theorem field?_syncHeader (h : "" ∉ d.names) (hdr : Http.Header) :
    (d.syncHeader hdr).field? boundField = if 0 < d.size then some [d.render] else none := by
  rw [syncHeader_of_named h]
  by_cases hs : d.size = 0
  · rw [if_pos hs, if_neg (by omega), Http.Header.field?_erase]
  · rw [if_neg hs, if_pos (by omega), Http.Header.field?_set]

end Directives

namespace Session

/-- 見張る集まり: 番号 0 のもの。 -/
def first (s : Session) : Directives := s.objects.getD 0 default

/-! ## 一歩 -/

section Step

variable (s : Session) (t : Nat) (c : Call)

@[simp] theorem step_watcher : (s.step t c).1.watcher = s.watcher := by
  unfold step
  dsimp only
  split <;> rfl

@[simp] theorem step_reply :
    (s.step t c).2.reply = ((s.objects.getD t default).perform c).reply := by
  unfold step
  dsimp only
  split <;> rfl

@[simp] theorem step_target :
    (s.step t c).2.target = ((s.objects.getD t default).perform c).after := by
  unfold step
  dsimp only
  split <;> rfl

theorem step_notices : (s.step t c).2.notices =
    if ((s.objects.getD t default).perform c).wrote && t == 0 && s.watcher == .notices then
      [⟨((s.objects.getD t default).perform c).after.render,
        ((s.objects.getD t default).perform c).after.role⟩]
    else [] := by
  unfold step
  dsimp only
  split <;> rfl

theorem step_header : (s.step t c).1.header =
    if ((s.objects.getD t default).perform c).wrote && t == 0 && s.watcher == .field then
      ((s.objects.getD t default).perform c).after.syncHeader s.header
    else s.header := by
  unfold step
  dsimp only
  split <;> rfl

theorem step_objects_ne_nil (h : s.objects ≠ []) : (s.step t c).1.objects ≠ [] := by
  unfold step
  dsimp only
  split <;> simp [h]

theorem step_first (h : s.objects ≠ []) :
    (s.step t c).1.first = if t = 0 then (s.first.perform c).after else s.first := by
  obtain ⟨d, rest, hs⟩ := List.exists_cons_of_ne_nil h
  unfold step first
  dsimp only
  rw [hs]
  cases t <;> split <;> simp

theorem step_first_of_perform {P : Directives → Prop} (hP : ∀ d c, P d → P (d.perform c).after)
    (h : s.objects ≠ []) (hs : P s.first) : P (s.step t c).1.first := by
  rw [step_first s t c h]
  split
  · exact hP _ _ hs
  · exact hs

theorem step_target_first (h : s.objects ≠ []) :
    (s.step 0 c).2.target = (s.step 0 c).1.first := by
  rw [step_target, step_first s 0 c h, if_pos rfl]
  rfl

/-- 見張り役 `w` が一歩を聞くのは、見張り役が `w` で、集まり 0 への書き込みが成功したとき。 -/
theorem heard_iff (w : Watcher) :
    (((s.objects.getD t default).perform c).wrote && t == 0 && s.watcher == w) = true ↔
      s.watcher = w ∧ t = 0 ∧ c.isWrite = true ∧ (s.step t c).2.reply = .done := by
  simp only [Bool.and_eq_true, beq_iff_eq, Directives.wrote_perform_iff, step_reply]
  tauto

/-- 知らせを記録する見張り役は、集まり 0 への成功した書き込みだけを、書き込んだ後の値と
集まり 0 の役割とともに聞く。 -/
theorem step_notices_cases :
    ((s.step t c).2.notices = [⟨(s.step t c).2.target.render, s.first.role⟩] ∧
        s.watcher = .notices ∧ t = 0 ∧ c.isWrite = true ∧ (s.step t c).2.reply = .done) ∨
      ((s.step t c).2.notices = [] ∧
        ¬(s.watcher = .notices ∧ t = 0 ∧ c.isWrite = true ∧ (s.step t c).2.reply = .done)) := by
  rw [step_notices]
  split
  · rename_i hb
    obtain ⟨hn, rfl, hw, hr⟩ := (heard_iff s t c .notices).mp hb
    exact .inl ⟨by rw [step_target, Directives.role_perform]; rfl, hn, rfl, hw, hr⟩
  · rename_i hb
    exact .inr ⟨rfl, mt (heard_iff s t c .notices).mpr hb⟩

theorem step_provided_iff (h : s.objects ≠ []) :
    (s.step t c).1.first.provided = true ↔ s.first.provided = true ∨
      t = 0 ∧ (s.step t c).2.reply = .done ∧
        (c.isWrite = true ∨ ∃ ps, c = .reset ps ∧ 0 < (Directives.entriesOf ps).size) := by
  rw [step_first s t c h, step_reply]
  by_cases ht : t = 0
  · subst ht
    rw [if_pos rfl, eq_self_iff_true, true_and]
    exact Directives.provided_perform_iff
  · simp [ht]

theorem step_field?_of_ne {name : String} (hne : Http.canonicalName name ≠ Directives.boundField) :
    (s.step t c).1.header.field? name = s.header.field? name := by
  rw [step_header]
  split
  · exact Directives.syncHeader_field?_of_ne _ _ hne
  · rfl

/-- ヘッダーに結びついていれば、集まり 0 への成功した書き込みの後、フィールドは集まり 0 の値
一つか、集まり 0 が空なら無い。ほかの一歩ではヘッダーは変わらない。 -/
theorem step_bound (hw : s.watcher = .field) (h : s.objects ≠ []) (hr : s.first.Reachable) :
    (t = 0 ∧ c.isWrite = true ∧ (s.step t c).2.reply = .done →
      (s.step t c).1.field =
        if 0 < (s.step t c).1.first.size then some [(s.step t c).1.first.render] else none) ∧
    (¬(t = 0 ∧ c.isWrite = true ∧ (s.step t c).2.reply = .done) →
      (s.step t c).1.header = s.header) := by
  have heard := (heard_iff s t c .field).trans (and_iff_right hw)
  constructor
  · intro hh
    have hheard := heard.mpr hh
    obtain ⟨rfl, -⟩ := hh
    -- 書き込んだ後も届く集まりなので、名前が空のディレクティブはない
    have hkeyed := (Directives.Reachable.perform c hr).keyed
    rw [field, step_header, if_pos hheard, step_first s 0 c h, if_pos rfl]
    exact Directives.field?_syncHeader hkeyed.named s.header
  · intro hn
    rw [step_header, if_neg (mt heard.mp hn)]

end Step

/-! ## 操作の列 -/

section Run

variable (s : Session)

theorem run_append (l₁ l₂ : List (Nat × Call)) :
    s.run (l₁ ++ l₂) = (((s.run l₁).1.run l₂).1, (s.run l₁).2 ++ ((s.run l₁).1.run l₂).2) := by
  induction l₁ generalizing s with
  | nil => rfl
  | cons p l₁ ih => simp [run, ih]

@[simp] theorem run_length (l : List (Nat × Call)) : (s.run l).2.length = l.length := by
  induction l generalizing s with
  | nil => rfl
  | cons p l ih => simp [run, ih]

@[simp] theorem run_watcher (l : List (Nat × Call)) : (s.run l).1.watcher = s.watcher := by
  induction l generalizing s with
  | nil => rfl
  | cons p l ih => simp [run, ih]

/-- 番号 `i` の操作の結果は、それより前の操作が残した状態からの一歩の結果。 -/
theorem run_getElem? {l : List (Nat × Call)} {i t c} (h : l[i]? = some (t, c)) :
    (s.run l).2[i]? = some ((s.run (l.take i)).1.step t c).2 ∧
      (s.run (l.take (i + 1))).1 = ((s.run (l.take i)).1.step t c).1 := by
  have hi : i < l.length := (List.getElem?_eq_some_iff.mp h).1
  have htake : l.take (i + 1) = l.take i ++ [(t, c)] := by
    rw [List.take_add_one, h]
    rfl
  have hsplit : l = l.take (i + 1) ++ l.drop (i + 1) := (List.take_append_drop _ _).symm
  constructor
  · have hlen : ((s.run (l.take i)).2).length = i := by simp; omega
    conv_lhs => rw [hsplit, run_append, htake, run_append]
    simp [run, hlen]
  · rw [htake, run_append]
    simp [run]

theorem run_objects_ne_nil {l : List (Nat × Call)} (h : s.objects ≠ []) :
    (s.run l).1.objects ≠ [] := by
  induction l generalizing s with
  | nil => exact h
  | cons p l ih => exact ih _ (step_objects_ne_nil s p.1 p.2 h)

theorem run_first {P : Directives → Prop} (hP : ∀ d c, P d → P (d.perform c).after)
    {l : List (Nat × Call)} (h : s.objects ≠ []) (hs : P s.first) : P (s.run l).1.first := by
  induction l generalizing s with
  | nil => exact hs
  | cons p l ih =>
    obtain ⟨t, c⟩ := p
    exact ih _ (step_objects_ne_nil s t c h) (step_first_of_perform s t c hP h hs)

theorem run_notices {l : List (Nat × Call)} (h : s.objects ≠ []) :
    ∀ t c r, ((t, c), r) ∈ l.zip (s.run l).2 →
      (r.notices = [⟨r.target.render, s.first.role⟩] ∧
          s.watcher = .notices ∧ t = 0 ∧ c.isWrite = true ∧ r.reply = .done) ∨
        (r.notices = [] ∧ ¬(s.watcher = .notices ∧ t = 0 ∧ c.isWrite = true ∧ r.reply = .done)) := by
  induction l generalizing s with
  | nil => simp [run]
  | cons p l ih =>
    obtain ⟨t₀, c₀⟩ := p
    intro t c r hm
    simp only [run, List.zip_cons_cons, List.mem_cons, Prod.mk.injEq] at hm
    rcases hm with ⟨⟨rfl, rfl⟩, rfl⟩ | hm
    · exact step_notices_cases s _ _
    -- 後の操作は一歩進めた状態から見る。見張り役と集まり 0 の役割は変わらない
    · have hrole : (s.step t₀ c₀).1.first.role = s.first.role :=
        step_first_of_perform s t₀ c₀ (fun d c hd => (Directives.role_perform d c).trans hd) h rfl
      simpa [hrole] using ih _ (step_objects_ne_nil s t₀ c₀ h) t c r hm

theorem run_field?_of_ne {l : List (Nat × Call)} {name : String}
    (hne : Http.canonicalName name ≠ Directives.boundField) :
    (s.run l).1.header.field? name = s.header.field? name := by
  induction l generalizing s with
  | nil => rfl
  | cons p l ih => exact (ih _).trans (step_field?_of_ne s p.1 p.2 hne)

theorem run_provided_iff {l : List (Nat × Call)} (h : s.objects ≠ []) :
    (s.run l).1.first.provided = true ↔ s.first.provided = true ∨
      ∃ c r, ((0, c), r) ∈ l.zip (s.run l).2 ∧ r.reply = .done ∧
        (c.isWrite = true ∨ ∃ ps, c = .reset ps ∧ 0 < (Directives.entriesOf ps).size) := by
  induction l generalizing s with
  | nil => simp [run]
  | cons p l ih =>
    obtain ⟨t, c⟩ := p
    rw [show s.run ((t, c) :: l) =
        (((s.step t c).1.run l).1, (s.step t c).2 :: ((s.step t c).1.run l).2) from rfl,
      ih _ (step_objects_ne_nil s t c h), step_provided_iff s t c h]
    simp only [List.zip_cons_cons, List.mem_cons, Prod.mk.injEq]
    -- 最初の操作で立つか、残りの操作で立つか
    constructor
    · rintro ((hp | ⟨rfl, hr, hc⟩) | ⟨c', r', hm, hr, hc⟩)
      · exact .inl hp
      · exact .inr ⟨c, _, .inl ⟨⟨rfl, rfl⟩, rfl⟩, hr, hc⟩
      · exact .inr ⟨c', r', .inr hm, hr, hc⟩
    · rintro (hp | ⟨c', r', ⟨⟨ht, rfl⟩, rfl⟩ | hm, hr, hc⟩)
      · exact .inl (.inl hp)
      · exact .inl (.inr ⟨ht.symm, hr, hc⟩)
      · exact .inr ⟨c', r', hm, hr, hc⟩

end Run

/-! ## 知らせと `provided` -/

/-- ディレクティブの列から作り、どの見張り役をつけ、どんな操作を続けても、知らせを記録する
見張り役は、集まり 0 への書き込みが成功した操作ごとにちょうど一つの知らせを受け取る。知らせには
その直後の集まり 0 の値と、作ったときの役割が載る。ほかの操作では知らせはない。集まり 0 の
`provided` は、列がディレクティブを与えたか、書き込みが成功したか、ディレクティブを残す `reset`
があったときに限って立ち、立った後はどんな操作を続けても立ったまま。 -/
theorem notices_provided_of_run (role : Role) (pairs : List Directive) (w : Watcher)
    (calls : List (Nat × Call)) :
    let s := start (Directives.ofList role pairs) w
    (s.run calls).2.length = calls.length ∧
    (∀ t c r, ((t, c), r) ∈ calls.zip (s.run calls).2 →
      (r.notices = [⟨r.target.render, role⟩] ∧
          w = .notices ∧ t = 0 ∧ c.isWrite = true ∧ r.reply = .done) ∨
        (r.notices = [] ∧ ¬(w = .notices ∧ t = 0 ∧ c.isWrite = true ∧ r.reply = .done))) ∧
    (∀ i c r, calls[i]? = some (0, c) → (s.run calls).2[i]? = some r →
      r.target = (s.run (calls.take (i + 1))).1.first) ∧
    ((s.run calls).1.first.provided = true ↔ 0 < (Directives.entriesOf pairs).size ∨
      ∃ c r, ((0, c), r) ∈ calls.zip (s.run calls).2 ∧ r.reply = .done ∧
        (c.isWrite = true ∨ ∃ ps, c = .reset ps ∧ 0 < (Directives.entriesOf ps).size)) ∧
    (∀ more, (s.run calls).1.first.provided = true →
      (s.run (calls ++ more)).1.first.provided = true) := by
  intro s
  have hs : s.objects ≠ [] := List.cons_ne_nil _ _
  refine ⟨run_length s calls, run_notices s hs, ?_, ?_, ?_⟩
  · intro i c r hc hr
    obtain ⟨hri, hsucc⟩ := run_getElem? s hc
    rw [hri, Option.some.injEq] at hr
    rw [← hr, hsucc]
    exact step_target_first _ c (run_objects_ne_nil s hs)
  · have hp : s.first.provided = true ↔ 0 < (Directives.entriesOf pairs).size := by
      simp [s, start, first, Directives.ofList]
    rw [run_provided_iff s hs, hp]
  · intro more hp
    rw [run_append]
    exact run_first (P := fun d => d.provided = true) _
      (fun d c hd => Directives.provided_perform_iff.mpr (.inl hd))
      (run_objects_ne_nil s hs) hp

/-! ## ヘッダーに結びつける -/

/-- 応答ディレクティブをヘッダーに結びつけてもヘッダーは変わらず、どんな操作を続けても
Cache-Control 以外のフィールドは変わらない。集まり 0 への書き込みが成功した操作の後は、
フィールドは集まり 0 の値一つで、集まり 0 が空ならフィールドは無い。ほかの操作の後は、
ヘッダーはその前のまま。 -/
theorem field_of_bound_run (h : Http.Header) (calls : List (Nat × Call)) :
    let s := ofHeader h
    s.header = h ∧
    (∀ name, Http.canonicalName name ≠ Directives.boundField →
      (s.run calls).1.header.field? name = h.field? name) ∧
    ∀ i t c r, calls[i]? = some (t, c) → (s.run calls).2[i]? = some r →
      (t = 0 ∧ c.isWrite = true ∧ r.reply = .done →
        (s.run (calls.take (i + 1))).1.field =
          if 0 < (s.run (calls.take (i + 1))).1.first.size then
            some [(s.run (calls.take (i + 1))).1.first.render]
          else none) ∧
      (¬(t = 0 ∧ c.isWrite = true ∧ r.reply = .done) →
        (s.run (calls.take (i + 1))).1.header = (s.run (calls.take i)).1.header) := by
  intro s
  have hs : s.objects ≠ [] := List.cons_ne_nil _ _
  refine ⟨rfl, fun name hne => run_field?_of_ne s hne, ?_⟩
  intro i t c r hc hr
  obtain ⟨hri, hsucc⟩ := run_getElem? s hc
  rw [hri, Option.some.injEq] at hr
  subst hr
  rw [hsucc]
  -- 見張り役と、集まり 0 が作ったところから届くことは、操作の列を通して変わらない
  have hw : (s.run (calls.take i)).1.watcher = .field := run_watcher s _
  have hreach : (s.run (calls.take i)).1.first.Reachable :=
    run_first s (fun _ c hd => .perform c hd) hs (.ofList _ _)
  exact step_bound _ t c hw (run_objects_ne_nil s hs) hreach

end Session

end HttpCaching
