import HttpCaching.Directive.Entries
import HttpCaching.Proofs.KeyMap
/-!
# 表の二つの部分と連想リスト

表は名前の並びと写像の二つで持つ。二つが合っている (`Wf`: 並びは写像のキーを並べ替えたもの)
とき、並びに名前は重ならず、並びにある名前はちょうど写像にある名前。作った表は合っていて、
置いても除いても合ったまま。

合っている表を並びに沿って読んだ列 `toList` は連想リストとして振る舞う。置けば `putList`
(あればその位置で置き換え、なければ末尾に足す)、除けばその名前の項目だけが消えて残りの順は
そのまま (`toList_put`, `toList_erase`)。名前で引いた引数は、列でその名前の項目の引数。

主な補題: 名前の重ならない列を、その名前を持たない表に順に入れると、列がそのまま末尾に付く
(`toList_putAll_of_nodup`)。
-/
namespace HttpCaching.Entries

/-- 連想リストとしての書き込み: その名前の最初の項目を置き換えるか、なければ末尾に足す。 -/
def putList (d : Directive) : List Directive → List Directive
  | [] => [d]
  | x :: r => if x.name == d.name then d :: r else x :: putList d r

variable {e : Entries} {n : String}

/-! ## 列として読む -/

theorem names_eq (e : Entries) : e.names = e.toList.map (·.name) := by
  simp [toList, Function.comp_def]

theorem size_eq (e : Entries) : e.size = e.toList.length := by
  simp [size, toList]

@[simp] theorem toList_empty : Entries.empty.toList = [] := rfl

theorem contains_eq_isSome (e : Entries) (n : String) : e.contains n = (e.get? n).isSome :=
  KeyMap.contains_eq_isSome

theorem names_put (e : Entries) (d : Directive) :
    (e.put d).names = if e.contains d.name then e.names else e.names ++ [d.name] := rfl

theorem erase_of_contains (h : e.contains n = true) :
    e.erase n = ⟨e.names.erase n, e.values.erase n⟩ := if_pos h

theorem erase_of_not_contains (h : e.contains n = false) : e.erase n = e := if_neg (by simp [h])

theorem get?_put (e : Entries) (d : Directive) (n : String) :
    (e.put d).get? n = if n = d.name then some d.arg else e.get? n :=
  KeyMap.get?_insert

theorem put_of_get? {d : Directive} (h : e.get? d.name = some d.arg) : e.put d = e := by
  have hc : e.contains d.name = true := by rw [contains_eq_isSome, h]; rfl
  rw [put, if_pos hc, KeyMap.insert_of_get? h]

@[simp] theorem toList_put_empty (d : Directive) : (Entries.empty.put d).toList = [d] := by
  have hn : (Entries.empty.put d).names = [d.name] := rfl
  simp [toList, hn, get?_put]

theorem get?_erase (e : Entries) (m n : String) :
    (e.erase m).get? n = if n = m then none else e.get? n := by
  cases hc : e.contains m with
  | true => rw [erase_of_contains hc]; exact KeyMap.get?_erase
  | false =>
    rw [erase_of_not_contains hc]
    split
    · rename_i hn
      subst hn
      simpa [contains_eq_isSome] using hc
    · rfl

/-! ## 連想リストの書き込み -/

theorem putList_of_not_mem {d : Directive} {l : List Directive} (h : d.name ∉ l.map (·.name)) :
    putList d l = l ++ [d] := by
  induction l with
  | nil => rfl
  | cons x l ih =>
    simp only [List.map_cons, List.mem_cons, not_or] at h
    have hx : (x.name == d.name) = false := by simpa using Ne.symm h.1
    simp [putList, hx, ih h.2]

theorem putList_of_mem {d : Directive} {l : List Directive} (hn : (l.map (·.name)).Nodup)
    (h : d.name ∈ l.map (·.name)) : putList d l = l.map fun x => if x.name = d.name then d else x := by
  induction l with
  | nil => simp at h
  | cons x l ih =>
    simp only [List.map_cons, List.nodup_cons, List.mem_cons] at hn h
    by_cases hx : x.name = d.name
    · -- 残りの列にその名前はない
      have hrest : ∀ y ∈ l, y.name ≠ d.name := fun y hy he => hn.1 (hx ▸ he ▸ List.mem_map_of_mem hy)
      simp [putList, hx, List.map_congr_left fun y hy => if_neg (hrest y hy)]
    · have hx' : (x.name == d.name) = false := by simpa using hx
      simp [putList, hx', hx, ih hn.2 (h.resolve_left (Ne.symm hx))]

theorem mem_putList {d x : Directive} {l : List Directive} (h : x ∈ putList d l) : x = d ∨ x ∈ l := by
  induction l with
  | nil => simpa [putList] using h
  | cons y l ih =>
    simp only [putList] at h
    split at h
    · rcases List.mem_cons.mp h with rfl | h
      · exact .inl rfl
      · exact .inr (List.mem_cons_of_mem _ h)
    · rcases List.mem_cons.mp h with rfl | h
      · exact .inr List.mem_cons_self
      · rcases ih h with rfl | h
        · exact .inl rfl
        · exact .inr (List.mem_cons_of_mem _ h)

/-! ## 二つの部分が合っている表 -/

/-- 表の二つの部分が合っている: 名前の並びは写像のキーを並べ替えたもの。 -/
def Wf (e : Entries) : Prop := e.names.Perm (e.values.toList.map (·.1))

namespace Wf

theorem nodup (h : e.Wf) : e.names.Nodup := List.Perm.nodup_iff h |>.mpr e.values.nodup

theorem mem_iff (h : e.Wf) : n ∈ e.names ↔ e.contains n = true := by
  rw [List.Perm.mem_iff h, contains, KeyMap.contains_iff_mem]

theorem empty : Entries.empty.Wf := List.Perm.nil

theorem put (h : e.Wf) (d : Directive) : (e.put d).Wf := by
  show (if e.values.contains d.name then e.names else e.names ++ [d.name]).Perm
    ((e.values.insert d.name d.arg).toList.map (·.1))
  rw [KeyMap.keys_insert]
  cases e.values.contains d.name with
  | true => exact h
  | false => exact List.perm_append_singleton d.name e.names |>.trans (List.Perm.cons d.name h)

theorem erase (h : e.Wf) (n : String) : (e.erase n).Wf := by
  cases hc : e.contains n with
  | true =>
    rw [erase_of_contains hc]
    show (e.names.erase n).Perm ((e.values.erase n).toList.map (·.1))
    rw [KeyMap.keys_erase]
    exact List.Perm.erase n h
  | false =>
    rw [erase_of_not_contains hc]
    exact h

theorem putAll (h : e.Wf) (ds : List Directive) : (e.putAll ds).Wf := by
  induction ds generalizing e with
  | nil => exact h
  | cons d ds ih => exact ih (h.put d)

theorem eq_empty (h : e.Wf) (hs : e.size = 0) : e = Entries.empty := by
  obtain ⟨names, values⟩ := e
  obtain rfl : names = [] := List.length_eq_zero_iff.mp hs
  obtain rfl : values = ∅ := KeyMap.toList_inj.mp (List.map_eq_nil_iff.mp (List.nil_perm.mp h))
  rfl

theorem isSome_get? (h : e.Wf) (n : String) : (e.get? n).isSome ↔ n ∈ e.names := by
  rw [h.mem_iff, contains_eq_isSome]

theorem get?_eq_none (h : e.Wf) (hn : n ∉ e.names) : e.get? n = none := by
  cases hg : e.get? n with
  | none => rfl
  | some a => exact absurd ((h.isSome_get? n).mp (by simp [hg])) hn

theorem getD_get? (h : e.Wf) (hn : n ∈ e.names) : ∃ a, e.get? n = some a ∧ (e.get? n).getD .flag = a := by
  obtain ⟨a, ha⟩ := Option.isSome_iff_exists.mp ((h.isSome_get? n).mpr hn)
  exact ⟨a, ha, by rw [ha]; rfl⟩

theorem mem_toList (h : e.Wf) {x : Directive} : x ∈ e.toList ↔ e.get? x.name = some x.arg := by
  constructor
  · intro hx
    obtain ⟨m, hm, rfl⟩ := List.mem_map.mp hx
    obtain ⟨a, ha, hd⟩ := h.getD_get? hm
    rw [hd]
    exact ha
  · intro hx
    have hm : x.name ∈ e.names := (h.isSome_get? x.name).mp (by simp [hx])
    exact List.mem_map.mpr ⟨x.name, hm, by simp [hx]⟩

theorem get?_eq_find? (h : e.Wf) (n : String) :
    e.get? n = (e.toList.find? (·.name == n)).map (·.arg) := by
  by_cases hn : n ∈ e.names
  · -- 列でその名前の項目は一つ
    obtain ⟨a, ha, -⟩ := h.getD_get? hn
    have hmem : (⟨n, a⟩ : Directive) ∈ e.toList := h.mem_toList.mpr ha
    obtain ⟨x, hx⟩ := Option.isSome_iff_exists.mp
      (List.find?_isSome.mpr ⟨_, hmem, by simp⟩ : (e.toList.find? (·.name == n)).isSome)
    have hxn : x.name = n := by simpa using List.find?_some hx
    have hxa : e.get? x.name = some x.arg := h.mem_toList.mp (List.mem_of_find?_eq_some hx)
    rw [hx, ha, Option.map_some, ← Option.some.injEq, ← ha, ← hxa, hxn]
  · rw [h.get?_eq_none hn, eq_comm, Option.map_eq_none_iff, List.find?_eq_none]
    intro x hx
    have hxn : x.name ≠ n := fun he => hn (he ▸ (names_eq e ▸ List.mem_map_of_mem hx))
    simpa using hxn

theorem toList_put (h : e.Wf) (d : Directive) : (e.put d).toList = putList d e.toList := by
  -- 置いた名前の項目は置いたディレクティブ、ほかの項目は元のまま
  have hitem : ∀ m, (⟨m, ((e.put d).get? m).getD .flag⟩ : Directive) =
      if m = d.name then d else ⟨m, (e.get? m).getD .flag⟩ := by
    intro m
    rw [get?_put]
    split
    · rename_i hm
      subst hm
      rfl
    · rfl
  have hnames : e.toList.map (·.name) = e.names := (names_eq e).symm
  cases hc : e.contains d.name with
  | true =>
    have hmem : d.name ∈ e.names := h.mem_iff.mpr hc
    rw [putList_of_mem (hnames ▸ h.nodup) (hnames ▸ hmem), toList, names_put, if_pos hc, toList,
      List.map_map]
    refine List.map_congr_left fun m _ => ?_
    rw [hitem]
    by_cases hm : m = d.name <;> simp [hm]
  | false =>
    have hmem : d.name ∉ e.names := fun hm => by simp [h.mem_iff.mp hm] at hc
    rw [putList_of_not_mem (hnames ▸ hmem), toList, names_put, if_neg (by simp [hc]),
      List.map_append, toList]
    congr 1
    · refine List.map_congr_left fun m hm => ?_
      rw [hitem, if_neg fun he : m = d.name => hmem (he ▸ hm)]
    · simp [hitem]

theorem toList_erase (h : e.Wf) (n : String) :
    (e.erase n).toList = e.toList.filter (·.name != n) := by
  cases hc : e.contains n with
  | true =>
    have hitem : ∀ m, m ≠ n → ((e.erase n).get? m).getD .flag = (e.get? m).getD .flag := by
      intro m hm
      rw [get?_erase, if_neg hm]
    have hnames : (e.erase n).names = e.names.filter (· != n) := by
      rw [erase_of_contains hc]
      exact h.nodup.erase_eq_filter n
    have hfilter : e.names.filter ((·.name != n) ∘ fun m => (⟨m, (e.get? m).getD .flag⟩ : Directive)) =
        e.names.filter (· != n) := rfl
    rw [toList, hnames, toList, List.filter_map, hfilter]
    refine List.map_congr_left fun m hm => ?_
    have hmn : m ≠ n := by simpa using (List.mem_filter.mp hm).2
    rw [hitem m hmn]
  | false =>
    have hn : n ∉ e.names := fun hm => by simp [h.mem_iff.mp hm] at hc
    rw [erase_of_not_contains hc]
    refine (List.filter_eq_self.mpr fun x hx => ?_).symm
    have hxn : x.name ≠ n := fun he => hn (he ▸ (names_eq e ▸ List.mem_map_of_mem hx))
    simpa using hxn

end Wf

theorem mem_put {d x : Directive} (h : e.Wf) (hx : x ∈ (e.put d).toList) :
    x = d ∨ x ∈ e.toList :=
  mem_putList (h.toList_put d ▸ hx)

theorem mem_erase {x : Directive} (h : e.Wf) (hx : x ∈ (e.erase n).toList) :
    x ∈ e.toList ∧ x.name ≠ n := by
  simpa [h.toList_erase] using hx

/-! ## 続けて入れる -/

/-- 名前の重ならない列を、合っていてその名前を持たない表に入れると、列がそのまま末尾に付く。 -/
theorem toList_putAll_of_nodup (h : e.Wf) (ds : List Directive)
    (hds : (ds.map (·.name)).Nodup) (he : ∀ d ∈ ds, d.name ∉ e.names) :
    (e.putAll ds).toList = e.toList ++ ds := by
  induction ds generalizing e with
  | nil => simp [putAll]
  | cons d ds ih =>
    simp only [List.map_cons, List.nodup_cons] at hds
    have hput : (e.put d).toList = e.toList ++ [d] := by
      rw [h.toList_put, putList_of_not_mem (by rw [← names_eq]; exact he d List.mem_cons_self)]
    have he' : ∀ x ∈ ds, x.name ∉ (e.put d).names := by
      intro x hx hmem
      rw [names_eq, hput, List.map_append, List.mem_append] at hmem
      rcases hmem with hmem | hmem
      · exact he x (List.mem_cons_of_mem _ hx) (by rwa [names_eq])
      · simp only [List.map_cons, List.map_nil, List.mem_singleton] at hmem
        exact hds.1 (hmem ▸ List.mem_map_of_mem hx)
    show ((e.put d).putAll ds).toList = _
    rw [ih (h.put d) hds.2 he', hput, List.append_assoc, List.singleton_append]

end HttpCaching.Entries
