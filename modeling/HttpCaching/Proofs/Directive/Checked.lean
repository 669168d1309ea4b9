import HttpCaching.Proofs.Directive.Step
import HttpCaching.Proofs.Text.Utf8
/-!
# 検査を通した書き込みだけで作った集まり

ディレクティブのない集まりから、`reset` 以外の操作だけで作った集まり (`Validated`) では、
どのディレクティブも検査を通った形で保存されている (`Directive.Stored`)。名前は小文字の
トークンで `_` を含まず (`Directive.CheckedName`)、引数はその名前の種類が受け付ける形
(`Argument.Accepted`)。要求のディレクティブは書き込めないので空のまま。

そこから二つのことが従う。ある名前の引数をそのまま書き戻す汎用の書き込みは成功し、表を
変えない (`set_get`)。書き出した値には HTAB 以外の 0x20 未満のバイトも 0x7F もない
(`render_no_control`)。主な主張は `Validated.checked`。
-/
namespace HttpCaching

open HttpCaching.Field

/-! ## 名前の文字 -/

namespace Text

theorem isUpper_lowerChar (c : Char) : (lowerChar c).isUpper = false := by
  have ascii : ∀ n, n < 0x80 → (Char.ofNat n).isUpper = true →
      (Char.ofNat n).toLower ≠ Char.ofNat n := by
    decide +kernel
  generalize hz : lowerChar c = z
  have hfix : lowerChar z = z := hz ▸ lowerChar_lowerChar c
  cases hup : z.isUpper with
  | false => rfl
  | true =>
    have hlt : z.toNat < 0x80 := by
      change decide (z.val ≥ 'A'.val ∧ z.val ≤ 'Z'.val) = true at hup
      rw [decide_eq_true_eq] at hup
      have h90 := UInt32.le_iff_toNat_le.mp hup.2
      simp only [Char.toNat] at h90 ⊢
      exact lt_of_le_of_lt h90 (by decide)
    rw [lowerChar, if_pos hlt] at hfix
    exact absurd (by rwa [Char.ofNat_toNat]) (ascii z.toNat hlt (by rwa [Char.ofNat_toNat]))

end Text

namespace Directive

open Text

/-- 検査する書き込みが保存するとおりのディレクティブの名前: 大文字も下線もない RFC 9110 の
トークン。 -/
structure CheckedName (n : String) : Prop where
  token : isToken n = true
  lower : ∀ c ∈ n.toList, c.isUpper = false
  noUnderscore : '_' ∉ n.toList

theorem isUpper_nameChar (c : Char) : (nameChar c).isUpper = false := by
  unfold nameChar hyphen
  split
  · rfl
  · exact isUpper_lowerChar _

theorem nameChar_ne_underscore (c : Char) : nameChar c ≠ '_' := by
  unfold nameChar hyphen
  split
  · nofun
  · rename_i h
    simpa using h

theorem checkedName_of_normal {n : String} (ht : isToken n = true) (hn : normalizeName n = n) :
    CheckedName n := by
  have hchars : ∀ c ∈ n.toList, ∃ y, nameChar y = c := by
    intro c hc
    rw [← hn, toList_normalizeName, List.mem_map] at hc
    obtain ⟨y, -, hy⟩ := hc
    exact ⟨y, hy⟩
  refine ⟨ht, fun c hc => ?_, fun hc => ?_⟩
  · obtain ⟨y, rfl⟩ := hchars c hc
    exact isUpper_nameChar y
  · obtain ⟨y, hy⟩ := hchars '_' hc
    exact nameChar_ne_underscore y hy

theorem Stored.checkedName {x : Directive} (h : x.Stored) : CheckedName x.name :=
  checkedName_of_normal h.1 h.2.1

end Directive

/-! ## 検査を通った引数 -/

namespace Argument.Accepted

open Directive

variable {cls : ArgumentClass} {b : Argument}

theorem checkArgument (h : Accepted cls b) (name : String) : checkArgument name cls b = .ok b := by
  cases h with
  | flag hne => simp [Directive.checkArgument, hne]
  | @seconds cls k hr hk =>
    have hn : ¬k < 0 := Int64.not_lt.mpr hk
    cases cls <;> simp_all [Directive.checkArgument, ofNumber, ArgumentClass.readsSeconds]
  | number => rfl
  | unbounded => simp [Directive.checkArgument, ofText]
  | text hcls hs =>
    rcases hcls with rfl | rfl <;> simp [Directive.checkArgument, ofText, hs]

theorem hasControl_token {s : String} (h : Accepted cls (.token s)) : hasControl s = false := by
  cases h with
  | unbounded => decide
  | text _ hs => exact hs

end Argument.Accepted

/-! ## 書き出した値の文字 -/

namespace Field

theorem any_quoteChars (l : List Char) : (quoteChars l).any isControl = l.any isControl := by
  induction l with
  | nil => rfl
  | cons c l ih =>
    unfold quoteChars
    split
    · simp [ih, show isControl '\\' = false by decide]
    · simp [ih]

theorem hasControl_quote (s : String) : hasControl (quote s) = hasControl s := by
  simp [hasControl, toList_quote, any_quoteChars, show isControl '"' = false by decide]

theorem bytesOf_no_control {s : String} (h : hasControl s = false) :
    ∀ b ∈ Text.bytesOf s, (b < 0x20 → b = 0x09) ∧ b ≠ 0x7F := by
  intro b hb
  by_cases hlt : b < 0x80
  · obtain ⟨c, hc, rfl⟩ := Text.exists_of_mem_bytesOf hb hlt
    have hcl : isControl c = false := by
      simp only [hasControl, List.any_eq_false] at h
      simpa using h c hc
    simp only [isControl, Bool.or_eq_false_iff, Bool.and_eq_false_iff, decide_eq_false_iff_not,
      bne_eq_false_iff_eq, beq_eq_false_iff_ne] at hcl
    refine ⟨fun h20 => ?_, hcl.2⟩
    rcases hcl.1 with h' | rfl
    · omega
    · rfl
  · omega

end Field

namespace Directive

open Argument

theorem Stored.hasControl_render {x : Directive} (h : x.Stored) : hasControl x.render = false := by
  have hname : hasControl x.name = false := Accepted.hasControl_of_isToken h.1
  obtain ⟨n, a⟩ := x
  cases a with
  | flag => exact hname
  | int k =>
    have hk : hasControl (toString k.toInt) = false :=
      Accepted.hasControl_of_isToken (isToken_toString_int _)
    simp only [Directive.render, hasControl_append, hname, hk,
      show hasControl "=" = false by decide, Bool.or_self]
  | token s =>
    have hs : hasControl s = false := Accepted.hasControl_token h.2.2
    have harg : hasControl (if ArgumentClass.of n == .fields then quote s else tokenOrQuoted s) =
        false := by
      unfold tokenOrQuoted
      split <;> [skip; split] <;> simp [hasControl_quote, hs]
    simp only [Directive.render, hasControl_append, hname, harg,
      show hasControl "=" = false by decide, Bool.or_self]

end Directive

namespace Directives

open Directive Argument

variable {d : Directives}

/-! ## 検査を通した集まりの不変条件 -/

/-- 検査を通して書いたディレクティブの不変条件: どのディレクティブも検査する書き込みが保存するとおり
に保存され、要求のディレクティブは何も持たない。 -/
structure Checked (d : Directives) : Prop where
  wf : d.entries.Wf
  stored : ∀ x ∈ d.toList, x.Stored
  request : d.role = .request → d.toList = []

theorem checked_empty (role : Role) : (empty role).Checked :=
  ⟨Entries.Wf.empty, fun _ hx => (by simp [toList, empty] at hx), fun _ => rfl⟩

theorem Checked.perform (h : d.Checked) (c : Call) (hc : ∀ ps, c ≠ .reset ps)
    (hk : c.KindMatches) : (d.perform c).after.Checked := by
  rcases perform_cases d c with ⟨he, -⟩ | ⟨e, he, -, hr, hch⟩ | ⟨ps, rfl, -, -⟩
  · rw [he]
    exact h
  · rw [he]
    -- 保存された項目の性質は、表が合っていることと一緒に運ぶ
    have hs := Change.preserve (I := fun e => e.Wf ∧ ∀ x ∈ e.toList, x.Stored)
      ⟨Entries.Wf.empty, by simp⟩ (fun he hp => ⟨he.1.put _, fun x hx => ?_⟩)
      (fun n he => ⟨he.1.erase n, fun x hx => he.2 x (Entries.mem_erase he.1 hx).1⟩) hch
      ⟨h.wf, h.stored⟩
    · exact ⟨hs.1, hs.2, fun hreq => absurd hreq hr⟩
    rcases Entries.mem_put he.1 hx with rfl | hx
    · exact ⟨hp.1, hp.2.1, hp.2.2 hk⟩
    · exact he.2 x hx
  · exact absurd rfl (hc ps)

/-- 何もないところから検査する操作で組み立てたディレクティブ: 零の値かディレクティブなしから、
`reset` 以外のどの操作でも、型付きの書き込みはそれぞれ自分の種類のディレクティブを名指して。 -/
inductive Validated : Directives → Prop
  | empty (role : Role) : Validated (empty role)
  | ofNil (role : Role) : Validated (ofList role [])
  | perform {d : Directives} (c : Call) : (∀ ps, c ≠ .reset ps) → c.KindMatches → Validated d →
      Validated (d.perform c).after

theorem Validated.checkedInv (hd : d.Validated) : d.Checked := by
  induction hd with
  | empty role => exact checked_empty role
  | ofNil role => exact checked_empty role
  | perform c hc hk _ ih => exact ih.perform c hc hk

/-! ## 書き戻しと書き出し -/

theorem Checked.set_get (h : d.Checked) {n : String} {a : Argument} (hg : d.get? n = some a) :
    ∃ d', d.set n (.argument a) = .ok d' ∧ d'.entries = d.entries := by
  have hg' : d.entries.get? (normalizeName n) = some a := hg
  have hmem : (⟨normalizeName n, a⟩ : Directive) ∈ d.toList := h.wf.mem_toList.mpr hg'
  have hr : d.role ≠ .request := fun hreq => by
    rw [h.request hreq] at hmem
    cases hmem
  obtain ⟨ht, -, ha⟩ := h.stored _ hmem
  refine ⟨d.changed d.entries, ?_, rfl⟩
  unfold set
  generalize normalizeName n = m at hg' ht ha ⊢
  have hc : coerce m (.argument a) = .ok (some a) := by
    simp only [coerce, ha.checkArgument]
    rfl
  rw [if_neg (by simpa using hr), if_neg (by simpa using ht), hc]
  -- 書き戻すのは、引いた引数そのもの
  show Except.ok (d.changed (d.entries.put ⟨m, a⟩)) = _
  rw [Entries.put_of_get? hg']

theorem Checked.render_no_control (h : d.Checked) :
    ∀ b ∈ Text.bytesOf d.render, (b < 0x20 → b = 0x09) ∧ b ≠ 0x7F := by
  refine bytesOf_no_control (hasControl_intercalate (by decide) fun s hs => ?_)
  obtain ⟨x, hx, rfl⟩ := List.mem_map.mp hs
  exact (h.stored x hx).hasControl_render

/-- ディレクティブのない集まりから、`reset` 以外の検査を通した操作だけで作った集まりでは、
どの名前も小文字で `_` を含まないトークンで、引数はその名前の種類が受け付ける形。ある名前の
引数を汎用の書き込みで書き戻すと成功して表は変わらず、書き出した値には HTAB 以外の 0x20 未満の
バイトも 0x7F もない。 -/
theorem Validated.checked (hd : d.Validated) :
    (∀ x ∈ d.toList, CheckedName x.name ∧ Accepted (ArgumentClass.of x.name) x.arg) ∧
    (∀ n a, d.get? n = some a → ∃ d', d.set n (.argument a) = .ok d' ∧ d'.entries = d.entries) ∧
    (∀ b ∈ Text.bytesOf d.render, (b < 0x20 → b = 0x09) ∧ b ≠ 0x7F) := by
  have h := hd.checkedInv
  exact ⟨fun x hx => ⟨(h.stored x hx).checkedName, (h.stored x hx).2.2⟩,
    fun _ _ hg => h.set_get hg, h.render_no_control⟩

/-- ディレクティブのない応答の集まりに、拡張の数を汎用の書き込みで、`public` を型付きの書き込みで
書いた集まりは、検査を通した集まりの性質をすべて満たす。 -/
theorem checked_after_writes :
    let d := (((empty .response).perform (.set "X-Ext" (.int 5))).after.perform
      (.setFlag "public" true)).after
    d.Validated ∧
    (∀ x ∈ d.toList, CheckedName x.name ∧ Accepted (ArgumentClass.of x.name) x.arg) ∧
    (∀ n a, d.get? n = some a → ∃ d', d.set n (.argument a) = .ok d' ∧ d'.entries = d.entries) ∧
    (∀ b ∈ Text.bytesOf d.render, (b < 0x20 → b = 0x09) ∧ b ≠ 0x7F) :=
  have hd : Validated (((empty .response).perform (.set "X-Ext" (.int 5))).after.perform
      (.setFlag "public" true)).after :=
    .perform _ (fun _ h => Call.noConfusion h) rfl
      (.perform _ (fun _ h => Call.noConfusion h) trivial (.empty _))
  ⟨hd, hd.checked⟩

end Directives

end HttpCaching
