import HttpCaching.KeyMap
/-!
# 写像の読み書き

値を置いた写像でそのキーを引くと置いた値、ほかのキーは元の値 (`get?_insert`)。除いた写像で
そのキーは引けず、ほかのキーは元の値 (`get?_erase`)。どちらもキーの重なりによらない。
キーの並びは、置けば元の並びかその先頭に新しいキーを足したもの、除けばそのキーを除いたもの。
-/
namespace HttpCaching.KeyMap

variable {κ α : Type} {m : KeyMap κ α} {k k' : κ} {v : α}

@[simp] theorem toList_empty : (∅ : KeyMap κ α).toList = [] := rfl

theorem toList_inj {m m' : KeyMap κ α} : m.toList = m'.toList ↔ m = m' := by
  cases m
  cases m'
  simp

variable [DecidableEq κ]

@[simp] theorem get?_empty : (∅ : KeyMap κ α).get? k = none := rfl

@[simp] theorem contains_empty : (∅ : KeyMap κ α).contains k = false := rfl

theorem contains_eq_isSome : m.contains k = (m.get? k).isSome := by
  rw [contains, get?, Option.isSome_map]
  exact Bool.eq_iff_iff.mpr (List.any_eq_true.trans List.find?_isSome.symm)

theorem contains_iff_mem : m.contains k = true ↔ k ∈ m.toList.map (·.1) := by
  simp [contains]

theorem insert_of_contains (h : m.contains k = true) :
    (m.insert k v).toList = m.toList.map fun p => if p.1 == k then (p.1, v) else p := by
  simp [insert, h]

theorem insert_of_not_contains (h : m.contains k = false) :
    (m.insert k v).toList = (k, v) :: m.toList := by
  simp [insert, h]

/-- 値を替えた列で引くと、見つかる項目は同じで、値はそのキーなら置いた値。 -/
theorem find?_replace (l : List (κ × α)) (k k' : κ) (v : α) :
    ((l.map fun p => if p.1 == k then (p.1, v) else p).find? (·.1 == k')).map (·.2) =
      ((l.find? (·.1 == k')).map (·.2)).map fun w => if k' = k then v else w := by
  induction l with
  | nil => rfl
  | cons p l ih =>
    rw [List.map_cons, List.find?_cons, List.find?_cons]
    by_cases hp : p.1 = k'
    · subst hp
      by_cases hk : p.1 = k <;> simp [hk]
    · -- 値を替えてもキーは同じなので、この項目は見つからない
      have hp' : (p.1 == k') = false := by simpa using hp
      have hr : ((if p.1 == k then (p.1, v) else p).1 == k') = false := by split <;> exact hp'
      simp only [hr, hp']
      exact ih

/-- キーの重ならない列で引ける値をそのまま置き直しても、列は変わらない。 -/
theorem replace_of_find? {l : List (κ × α)} (hl : (l.map (·.1)).Nodup)
    (h : (l.find? (·.1 == k)).map (·.2) = some v) :
    (l.map fun p => if p.1 == k then (p.1, v) else p) = l := by
  induction l with
  | nil => cases h
  | cons p l ih =>
    rw [List.map_cons, List.nodup_cons] at hl
    rw [List.map_cons]
    by_cases hp : p.1 = k
    · -- 引けたのは先頭で、残りにそのキーはない
      subst hp
      have hv : p.2 = v := by simpa using h
      have hrest : ∀ q ∈ l, (if q.1 == p.1 then (q.1, v) else q) = q := fun q hq => by
        have hq' : q.1 ≠ p.1 := fun he => hl.1 (he ▸ List.mem_map_of_mem hq)
        simp [hq']
      rw [List.map_congr_left hrest, List.map_id', beq_self_eq_true, if_pos rfl, ← hv]
    · have hp' : (p.1 == k) = false := by simpa using hp
      rw [List.find?_cons, hp'] at h
      rw [if_neg (by simp [hp']), ih hl.2 h]

theorem insert_of_get? (h : m.get? k = some v) : m.insert k v = m := by
  have hc : m.contains k = true := by rw [contains_eq_isSome, h]; rfl
  exact toList_inj.mp ((insert_of_contains hc).trans (replace_of_find? m.nodup h))

theorem get?_insert : (m.insert k v).get? k' = if k' = k then some v else m.get? k' := by
  cases hc : m.contains k with
  | false =>
    rw [get?, insert_of_not_contains hc]
    by_cases hk : k' = k
    · simp [hk]
    · simp [Ne.symm hk, hk, get?]
  | true =>
    rw [get?, insert_of_contains hc, find?_replace, ← get?]
    by_cases hk : k' = k
    · -- そのキーは元の写像にあるので、置いた値が見つかる
      subst hk
      obtain ⟨w, hw⟩ := Option.isSome_iff_exists.mp (contains_eq_isSome.symm.trans hc)
      simp [hw]
    · simp [hk]

theorem contains_insert : (m.insert k v).contains k' = (k' == k || m.contains k') := by
  rw [contains_eq_isSome, get?_insert, contains_eq_isSome]
  by_cases hk : k' = k <;> simp [hk]

theorem get?_erase : (m.erase k).get? k' = if k' = k then none else m.get? k' := by
  simp only [get?, erase, List.find?_filter]
  by_cases hk : k' = k
  · subst hk
    simp only [if_true, Option.map_eq_none_iff, List.find?_eq_none]
    intro q _
    by_cases hq : q.1 = k' <;> simp [hq]
  · rw [if_neg hk]
    congr 2
    funext q
    by_cases hq : q.1 = k' <;> simp [hq, hk]

theorem contains_erase : (m.erase k).contains k' = (k' != k && m.contains k') := by
  rw [contains_eq_isSome, get?_erase, contains_eq_isSome]
  by_cases hk : k' = k <;> simp [hk]

/-- 置いた写像のキーの並び: あるキーならそのまま、新しいキーは先頭に付く。 -/
theorem keys_insert :
    (m.insert k v).toList.map (·.1) =
      if m.contains k then m.toList.map (·.1) else k :: m.toList.map (·.1) := by
  cases hc : m.contains k with
  | false => simp [insert_of_not_contains hc]
  | true => rw [insert_of_contains hc, map_fst_replace, if_pos rfl]

theorem keys_erase : (m.erase k).toList.map (·.1) = (m.toList.map (·.1)).erase k := by
  rw [m.nodup.erase_eq_filter, List.filter_map]
  rfl

end HttpCaching.KeyMap
