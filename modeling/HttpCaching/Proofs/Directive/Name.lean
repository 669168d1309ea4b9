import Mathlib.Data.List.DropRight
import Mathlib.Data.List.Infix
import HttpCaching.Directive.Name
import HttpCaching.Proofs.Text.Case
import HttpCaching.Proofs.Field.Scan
/-!
# ディレクティブ名の正規形の性質

名前の正規形 `normalizeName` は、空白を両端から落とし、一文字ずつ写したもの
(`toList_normalizeName`)。その一文字の写し方 `nameChar` は二度かけても変わらず、空白でない
文字を空白にせず、引用符・バックスラッシュ・コンマ・等号をそれ自身とだけ入れ替える。

主な主張: 正規形をもう一度正規形にしても変わらない (`normalizeName_normalizeName`)。
また、正規形の名前は元の名前の走査の性質を受け継ぐ。
-/
namespace HttpCaching

namespace Text

/-! ## 両端の切り詰め -/

theorem trimList_eq_rdropWhile (p : Char → Bool) (cs : List Char) :
    trimList p cs = (cs.dropWhile p).rdropWhile p := rfl

/-- 両端が落とす文字でなければ、切り詰めても変わらない。 -/
theorem trimList_eq_self {p : Char → Bool} {cs : List Char}
    (hh : ∀ c ∈ cs.head?, p c = false) (hl : ∀ c ∈ cs.getLast?, p c = false) :
    trimList p cs = cs := by
  have hd : cs.dropWhile p = cs := by
    rw [List.dropWhile_eq_self_iff]
    intro h
    simpa using hh (cs.get ⟨0, h⟩) (by simp [List.head?_eq_getElem?, List.getElem?_eq_getElem h])
  rw [trimList_eq_rdropWhile, hd, List.rdropWhile_eq_self_iff]
  intro h
  simpa using hl (cs.getLast h) (by simp [List.getLast?_eq_some_getLast h])

theorem head?_trimList (p : Char → Bool) (cs : List Char) :
    ∀ c ∈ (trimList p cs).head?, p c = false := by
  intro c hc
  rw [trimList_eq_rdropWhile, Option.mem_def, List.head?_eq_some_iff] at hc
  obtain ⟨r, hr⟩ := hc
  obtain ⟨t, ht⟩ := List.rdropWhile_prefix (p := p) (l := cs.dropWhile p)
  have hd : (cs.dropWhile p).head? = some c := by rw [← ht, hr]; rfl
  simpa [hd] using List.head?_dropWhile_not p cs

theorem getLast?_trimList (p : Char → Bool) (cs : List Char) :
    ∀ c ∈ (trimList p cs).getLast?, p c = false := by
  intro c hc
  rw [trimList_eq_rdropWhile] at hc
  have hne : (cs.dropWhile p).rdropWhile p ≠ [] := by
    intro h
    simp [h] at hc
  rw [List.getLast?_eq_some_getLast hne, Option.mem_def, Option.some.injEq] at hc
  rw [← hc]
  simpa using List.rdropWhile_last_not (p := p) (l := cs.dropWhile p) hne

theorem trimList_infix (p : Char → Bool) (cs : List Char) :
    ∃ a b, cs = a ++ trimList p cs ++ b ∧ ∀ c ∈ a, p c = true := by
  refine ⟨cs.takeWhile p, (cs.dropWhile p).rtakeWhile p, ?_, fun c hc => ?_⟩
  · rw [trimList_eq_rdropWhile, List.append_assoc, List.rdropWhile_append_rtakeWhile,
      List.takeWhile_append_dropWhile]
  · exact List.mem_takeWhile_imp hc

end Text

namespace Field.Scan

theorem uncut_trimList {p : Char → Bool} (hp : ∀ c, p c = true → Plain c) {cs : List Char}
    (h : start.uncut cs = true) : start.uncut (Text.trimList p cs) = true := by
  obtain ⟨a, b, hab, ha⟩ := Text.trimList_infix p cs
  rw [hab, List.append_assoc] at h
  exact uncut_of_append (uncut_of_plain_append (fun c hc => hp c (ha c hc)) h)

end Field.Scan

namespace Directive

open Text

/-! ## 名前の一文字 -/

/-- 外に出す形の一文字: バイトを表す文字は U+FFFD。 -/
def shownChar (c : Char) : Char := if (standsFor? c).isSome then Char.ofNat 0xFFFD else c

/-- 下線をハイフンにする。 -/
def hyphen (c : Char) : Char := if c == '_' then '-' else c

/-- 名前の一文字の正規形: 外に出す形にし、小文字にして、下線はハイフンに。 -/
def nameChar (c : Char) : Char := hyphen (lowerChar (shownChar c))

theorem toList_normalizeName (x : String) :
    (normalizeName x).toList = (trimList isBlank x.toList).map nameChar := by
  simp [normalizeName, toLower, shown, trimBlank, nameChar, hyphen, shownChar, Function.comp_def]

theorem standsFor?_shownChar (c : Char) : standsFor? (shownChar c) = none := by
  unfold shownChar
  split
  · decide
  · rename_i h
    exact Option.not_isSome_iff_eq_none.mp h

theorem shownChar_of_standsFor? {c : Char} (h : standsFor? c = none) : shownChar c = c := by
  simp [shownChar, h]

theorem standsFor?_hyphen {c : Char} (h : standsFor? c = none) : standsFor? (hyphen c) = none := by
  unfold hyphen
  split
  · decide
  · exact h

theorem standsFor?_nameChar (c : Char) : standsFor? (nameChar c) = none :=
  standsFor?_hyphen (standsFor?_lowerChar (standsFor?_shownChar c))

theorem lowerChar_hyphen_lowerChar (c : Char) :
    lowerChar (hyphen (lowerChar c)) = hyphen (lowerChar c) := by
  unfold hyphen
  split
  · rfl
  · exact lowerChar_lowerChar c

@[simp]
theorem nameChar_nameChar (c : Char) : nameChar (nameChar c) = nameChar c := by
  have hs : shownChar (nameChar c) = nameChar c := shownChar_of_standsFor? (standsFor?_nameChar c)
  have hl : lowerChar (nameChar c) = nameChar c := lowerChar_hyphen_lowerChar _
  have hh : hyphen (nameChar c) = nameChar c := by
    simp only [nameChar, hyphen]
    split <;> simp_all
  rw [nameChar, hs, hl, hh]

theorem isBlank_nameChar {c : Char} (h : isBlank c = false) : isBlank (nameChar c) = false := by
  have hs : isBlank (shownChar c) = false := by
    unfold shownChar
    split
    · decide
    · exact h
  have hl := isBlank_lowerChar hs
  unfold nameChar hyphen
  split
  · decide
  · exact hl

theorem nameChar_eq_iff {c p : Char} (hp : p = '"' ∨ p = ',' ∨ p = '=' ∨ p = '\\') :
    nameChar c = p ↔ c = p := by
  have hsp : ∀ {d : Char}, shownChar d = p ↔ d = p := by
    intro d
    unfold shownChar
    split
    · rename_i hd
      constructor
      · intro h
        rcases hp with rfl | rfl | rfl | rfl <;> exact absurd h (by decide)
      · rintro rfl
        rcases hp with rfl | rfl | rfl | rfl <;> exact absurd hd (by decide)
    · rfl
  have hyp : ∀ {d : Char}, hyphen d = p ↔ d = p := by
    intro d
    unfold hyphen
    split
    · rename_i hd
      simp only [beq_iff_eq] at hd
      subst hd
      rcases hp with rfl | rfl | rfl | rfl <;> decide
    · rfl
  rw [nameChar, hyp, lowerChar_eq_special (by tauto), hsp]

theorem keeps_nameChar : Field.Scan.Keeps nameChar := fun _ =>
  ⟨nameChar_eq_iff (by simp), nameChar_eq_iff (by simp), nameChar_eq_iff (by simp)⟩

/-! ## 正規形 -/

theorem head?_normalizeName (x : String) :
    ∀ c ∈ (normalizeName x).toList.head?, isBlank c = false := by
  intro c hc
  rw [toList_normalizeName, List.head?_map, Option.mem_def, Option.map_eq_some_iff] at hc
  obtain ⟨d, hd, rfl⟩ := hc
  exact isBlank_nameChar (head?_trimList _ _ d hd)

theorem getLast?_normalizeName (x : String) :
    ∀ c ∈ (normalizeName x).toList.getLast?, isBlank c = false := by
  intro c hc
  rw [toList_normalizeName, List.getLast?_map, Option.mem_def, Option.map_eq_some_iff] at hc
  obtain ⟨d, hd, rfl⟩ := hc
  exact isBlank_nameChar (getLast?_trimList _ _ d hd)

theorem normalizeName_normalizeName (x : String) :
    normalizeName (normalizeName x) = normalizeName x := by
  rw [← String.toList_inj, toList_normalizeName (normalizeName x),
    trimList_eq_self (head?_normalizeName x) (getLast?_normalizeName x), toList_normalizeName,
    List.map_map]
  -- `nameChar` を開くと表まで展開してしまうので、合成を書き換えて閉じる
  simp only [Function.comp_def, nameChar_nameChar]

theorem plain_of_isBlank {c : Char} (h : isBlank c = true) : Field.Scan.Plain c := by
  refine ⟨?_, ?_, ?_⟩ <;> rintro rfl <;> simp [isBlank] at h

theorem uncut_normalizeName {x : String} (h : Field.Scan.start.uncut x.toList = true) :
    Field.Scan.start.uncut (normalizeName x).toList = true := by
  rw [toList_normalizeName, Field.Scan.uncut_map keeps_nameChar]
  exact Field.Scan.uncut_trimList (fun _ hc => plain_of_isBlank hc) h

theorem eq_not_mem_normalizeName {x : String} (h : '=' ∉ x.toList) :
    '=' ∉ (normalizeName x).toList := by
  rw [toList_normalizeName, List.mem_map]
  rintro ⟨c, hc, he⟩
  rw [nameChar_eq_iff (by simp)] at he
  subst he
  obtain ⟨a, b, hab, -⟩ := trimList_infix isBlank x.toList
  apply h
  rw [hab]
  exact List.mem_append_left _ (List.mem_append_right _ hc)

end Directive

end HttpCaching
