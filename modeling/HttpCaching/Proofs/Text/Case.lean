import HttpCaching.Text.Case
import HttpCaching.Text.Blank
import HttpCaching.Text.Utf8
/-!
# 小文字への対応の性質

小文字への単純対応 `lowerChar` について、名前の正規形に要ることを表から確かめる。

* 表の区間の像は、表のどの区間にも覆われない。だから小文字にした文字をもう一度小文字にしても
  変わらない (`lowerChar_lowerChar`)。
* 像は空白文字、引用符・コンマ・等号・バックスラッシュ・下線、バイトを表す文字のどれにも
  当たらない。

区間どうしが交わらないことは、歩幅が 1 か 2 の区間について両端と偶奇だけで決まる
(`CaseRun.missesSpan`)。表全体の確かめは一度だけ、カーネルで評価する。
-/

namespace HttpCaching.Text

namespace CaseRun

/-! ## 区間の像と区間の交わり -/

/-- 歩幅 `t` で `a` から `b` まで並ぶ点のどれも `s` が覆わない。
歩幅が 1 か 2 のときに正しい判定。 -/
def missesSpan (a b t : Nat) (s : CaseRun) : Bool :=
  Nat.blt b s.first || Nat.blt s.last a ||
    let lo := max a s.first
    let hit (m : Nat) : Bool := m ≤ min b s.last && (m - a) % t == 0 && (m - s.first) % s.step == 0
    !(hit lo || hit (lo + 1))

/-- 区間 `r` が写した先のどの点も、`ss` のどの区間にも覆われない。 -/
def imageMisses (r : CaseRun) (ss : List CaseRun) : Bool :=
  go ((r.first : Int) + r.shift).toNat ((r.last : Int) + r.shift).toNat r.step ss
where
  go (a b t : Nat) (ss : List CaseRun) : Bool := ss.all (missesSpan a b t)

theorem covers_iff {r : CaseRun} {n : Nat} :
    r.covers n = true ↔ r.first ≤ n ∧ n ≤ r.last ∧ (n - r.first) % r.step = 0 := by
  simp [covers, and_assoc]

theorem not_covers_of_missesSpan {a b t : Nat} {s : CaseRun} (ht : t = 1 ∨ t = 2)
    (hs : s.step = 1 ∨ s.step = 2) (h : missesSpan a b t s = true) {m : Nat}
    (ha : a ≤ m) (hb : m ≤ b) (hm : (m - a) % t = 0) : s.covers m = false := by
  rw [Bool.eq_false_iff]
  intro hc
  rw [covers_iff] at hc
  simp only [missesSpan, Bool.or_eq_true, Nat.blt_eq, Bool.not_eq_true', Bool.or_eq_false_iff,
    Bool.and_eq_false_iff, decide_eq_false_iff_not, beq_eq_false_iff_ne] at h
  rcases ht with rfl | rfl <;> rcases hs with hs | hs <;> rw [hs] at hc h <;> omega

/-- 区間が写した先の点。 -/
def image (r : CaseRun) (n : Nat) : Nat := ((n : Int) + r.shift).toNat

/-- 歩幅が 1 か 2 で、写した先が負にならない区間。 -/
def Tidy (r : CaseRun) : Prop := (r.step = 1 ∨ r.step = 2) ∧ 0 ≤ (r.first : Int) + r.shift

instance (r : CaseRun) : Decidable r.Tidy := inferInstanceAs (Decidable (_ ∧ _))

theorem covers_eq_false_iff {r : CaseRun} {n : Nat} :
    r.covers n = false ↔ ¬(r.first ≤ n ∧ n ≤ r.last ∧ (n - r.first) % r.step = 0) := by
  rw [← covers_iff, Bool.not_eq_true]

theorem image_not_covered {r : CaseRun} {ss : List CaseRun} (hr : r.Tidy)
    (hm : imageMisses r ss = true) {s : CaseRun} (hss : s ∈ ss) (hs : s.step = 1 ∨ s.step = 2)
    {n : Nat} (hn : r.covers n = true) : s.covers (r.image n) = false := by
  have h := List.all_eq_true.mp hm s hss
  rw [covers_iff] at hn
  obtain ⟨hstep, hpos⟩ := hr
  obtain ⟨h1, h2, h3⟩ := hn
  have hoff : r.image n - ((r.first : Int) + r.shift).toNat = n - r.first := by
    simp only [image]; omega
  refine not_covers_of_missesSpan hstep hs h ?_ ?_ ?_
  · simp only [image]; omega
  · simp only [image]; omega
  · rw [hoff]; exact h3

end CaseRun

/-- 小文字の表の像が踏まない符号位置: 空白文字、引用符・コンマ・等号・バックスラッシュ・下線、
バイトを表す文字。 -/
def lowerAvoids : List CaseRun := [
  ⟨0x09, 0x0D, 1, 0⟩, ⟨0x20, 0x20, 1, 0⟩, ⟨0x22, 0x22, 1, 0⟩, ⟨0x2C, 0x2C, 1, 0⟩,
  ⟨0x3D, 0x3D, 1, 0⟩, ⟨0x5C, 0x5C, 1, 0⟩, ⟨0x5F, 0x5F, 1, 0⟩, ⟨0x85, 0x85, 1, 0⟩,
  ⟨0xA0, 0xA0, 1, 0⟩, ⟨0x1680, 0x1680, 1, 0⟩, ⟨0x2000, 0x200A, 1, 0⟩, ⟨0x2028, 0x2029, 1, 0⟩,
  ⟨0x202F, 0x202F, 1, 0⟩, ⟨0x205F, 0x205F, 1, 0⟩, ⟨0x3000, 0x3000, 1, 0⟩,
  ⟨0x10FF80, 0x10FFFF, 1, 0⟩]

theorem lowerRuns_tidy : ∀ r ∈ lowerRuns, r.Tidy := by decide +kernel

theorem steps_lowerRuns_lowerAvoids : ∀ s ∈ lowerRuns ++ lowerAvoids, s.step = 1 ∨ s.step = 2 := by
  decide +kernel

theorem lowerRuns_imageMisses : lowerRuns.all (·.imageMisses (lowerRuns ++ lowerAvoids)) = true := by
  decide +kernel

/-! ## 小文字への対応の場合分け -/

theorem toNat_ofNat_of_valid {n : Nat} (h : n.isValidChar) : (Char.ofNat n).toNat = n := by
  rw [Char.ofNat, dif_pos h]
  rfl

theorem ofNat_of_not_valid {n : Nat} (h : ¬n.isValidChar) : Char.ofNat n = Char.ofNat 0 := by
  simp [Char.ofNat, h]; rfl

/-- 小文字は、ASCII なら `Char.toLower`、表のどの区間も覆わなければ文字そのもの、
覆う区間があれば最初のその区間の像。 -/
theorem lowerChar_cases (c : Char) :
    (c.toNat < 0x80 ∧ lowerChar c = c.toLower) ∨
      (0x80 ≤ c.toNat ∧ (∀ r ∈ lowerRuns, r.covers c.toNat = false) ∧ lowerChar c = c) ∨
      ∃ r ∈ lowerRuns, r.covers c.toNat = true ∧ lowerChar c = Char.ofNat (r.image c.toNat) := by
  by_cases ha : c.toNat < 0x80
  · exact .inl ⟨ha, by simp [lowerChar, ha]⟩
  · cases hf : lowerRuns.find? (·.covers c.toNat) with
    | none =>
      refine .inr (.inl ⟨by omega, fun r hr => by simpa using List.find?_eq_none.mp hf r hr, ?_⟩)
      simp [lowerChar, ha, CaseRun.apply, hf]
    | some r =>
      refine .inr (.inr ⟨r, List.mem_of_find?_eq_some hf, by simpa using List.find?_some hf, ?_⟩)
      simp [lowerChar, ha, CaseRun.apply, hf, CaseRun.image]

/-- 表の区間の像に当たる文字について分かること。 -/
structure LowerImage (d : Char) : Prop where
  notUpper : d.toNat < 0x80 → d.toNat < 0x41 ∨ 0x5A < d.toNat
  uncovered : 0x80 ≤ d.toNat → ∀ s ∈ lowerRuns, s.covers d.toNat = false
  notBlank : isBlank d = false
  notSpecial : d ≠ '"' ∧ d ≠ ',' ∧ d ≠ '=' ∧ d ≠ '\\' ∧ d ≠ '_'
  notByte : standsFor? d = none

theorem lowerImage_zero : LowerImage (Char.ofNat 0) :=
  ⟨by decide, by decide, by decide, by decide, by decide⟩

theorem lowerImage_image {r : CaseRun} (hr : r ∈ lowerRuns) {n : Nat} (hn : r.covers n = true) :
    LowerImage (Char.ofNat (r.image n)) := by
  have hmiss : ∀ s ∈ lowerRuns ++ lowerAvoids, s.covers (r.image n) = false := fun s hs =>
    CaseRun.image_not_covered (lowerRuns_tidy r hr) (List.all_eq_true.mp lowerRuns_imageMisses r hr)
      hs (steps_lowerRuns_lowerAvoids s hs) hn
  by_cases hv : (r.image n).isValidChar
  · have hd := toNat_ofNat_of_valid hv
    -- 表の最初の区間は ASCII の大文字
    have hupper := hmiss ⟨0x41, 0x5A, 1, 32⟩
      (List.mem_append_left _ (by rw [lowerRuns]; exact List.mem_cons_self))
    have hav : ∀ s ∈ lowerAvoids, s.covers (r.image n) = false := fun s hs =>
      hmiss s (List.mem_append_right _ hs)
    simp only [lowerAvoids, List.mem_cons, List.not_mem_nil, or_false, forall_eq_or_imp,
      forall_eq, CaseRun.covers_eq_false_iff] at hav
    simp only [CaseRun.covers_eq_false_iff] at hupper
    refine ⟨fun _ => by omega, fun _ s hs => by rw [hd]; exact hmiss s (List.mem_append_left _ hs),
      ?_, ?_, ?_⟩
    · simp [isBlank, hd]
      omega
    · refine ⟨?_, ?_, ?_, ?_, ?_⟩ <;> intro h <;> have hm := congrArg Char.toNat h <;>
        rw [hd] at hm <;> simp only [Char.reduceToNat] at hm <;> omega
    · simp [standsFor?, hd]
      omega
  · rw [ofNat_of_not_valid hv]
    exact lowerImage_zero

/-! ## 小文字への対応の性質 -/

theorem LowerImage.lowerChar_eq {d : Char} (h : LowerImage d) : lowerChar d = d := by
  by_cases ha : d.toNat < 0x80
  · have ascii : ∀ n, n < 0x80 → (n < 0x41 ∨ 0x5A < n) → (Char.ofNat n).toLower = Char.ofNat n := by
      decide +kernel
    simpa [lowerChar, ha] using ascii d.toNat ha (h.notUpper ha)
  · have hf : lowerRuns.find? (·.covers d.toNat) = none :=
      List.find?_eq_none.mpr fun s hs => by simp [h.uncovered (by omega) s hs]
    simp [lowerChar, ha, CaseRun.apply, hf]

@[simp]
theorem lowerChar_lowerChar (c : Char) : lowerChar (lowerChar c) = lowerChar c := by
  rcases lowerChar_cases c with ⟨ha, hl⟩ | ⟨-, -, hl⟩ | ⟨r, hr, hn, hl⟩
  · have ascii : ∀ n, n < 0x80 →
        (Char.ofNat n).toLower.toNat < 0x80 ∧ (Char.ofNat n).toLower.toLower = (Char.ofNat n).toLower := by
      decide +kernel
    obtain ⟨h1, h2⟩ : c.toLower.toNat < 0x80 ∧ c.toLower.toLower = c.toLower := by
      simpa using ascii c.toNat ha
    rw [hl]
    simp only [lowerChar, h1, if_true, h2]
  · rw [hl, hl]
  · rw [hl]
    exact (lowerImage_image hr hn).lowerChar_eq

theorem isBlank_lowerChar {c : Char} (h : isBlank c = false) : isBlank (lowerChar c) = false := by
  rcases lowerChar_cases c with ⟨ha, hl⟩ | ⟨-, -, hl⟩ | ⟨r, hr, hn, hl⟩
  · have ascii : ∀ n, n < 0x80 → isBlank (Char.ofNat n) = false →
        isBlank (Char.ofNat n).toLower = false := by
      decide +kernel
    simpa [hl] using ascii c.toNat ha (by simpa using h)
  · rw [hl, h]
  · rw [hl]
    exact (lowerImage_image hr hn).notBlank

theorem lowerChar_eq_special {c p : Char}
    (hp : p = '"' ∨ p = ',' ∨ p = '=' ∨ p = '\\' ∨ p = '_') : lowerChar c = p ↔ c = p := by
  constructor
  · intro h
    rcases lowerChar_cases c with ⟨ha, hl⟩ | ⟨-, -, hl⟩ | ⟨r, hr, hn, hl⟩
    · have ascii : ∀ n, n < 0x80 → (Char.ofNat n).toLower = p → Char.ofNat n = p := by
        rcases hp with rfl | rfl | rfl | rfl | rfl <;> decide +kernel
      simpa using ascii c.toNat ha (by simpa [← hl] using h)
    · rwa [← hl]
    · have hs := (lowerImage_image hr hn).notSpecial
      rw [← hl, h] at hs
      rcases hp with rfl | rfl | rfl | rfl | rfl <;> simp at hs
  · rintro rfl
    rcases hp with rfl | rfl | rfl | rfl | rfl <;> decide

theorem standsFor?_lowerChar {c : Char} (h : standsFor? c = none) : standsFor? (lowerChar c) = none := by
  rcases lowerChar_cases c with ⟨ha, hl⟩ | ⟨-, -, hl⟩ | ⟨r, hr, hn, hl⟩
  · have ascii : ∀ n, n < 0x80 → standsFor? (Char.ofNat n).toLower = none := by decide +kernel
    simpa [hl] using ascii c.toNat ha
  · rw [hl, h]
  · rw [hl]
    exact (lowerImage_image hr hn).notByte

end HttpCaching.Text
