import Mathlib.Data.List.Nodup
import HttpCaching.Proofs.Directive.Step
/-!
# 表の二つの部分の不変条件

ディレクティブの表は、名前の並び `names` と、名前から引数への写像 `values` の二つで持つ。
作った集まりと、それにどんな操作と複製を続けた集まりでも (`Reachable`)、二つは合っていて
(`Entries.Wf`: 並びは写像のキーを並べ替えたもの)、空の名前もない (`Entries.Keyed`)。
写像は空で作られるか作り直され、置けばキーを一つ足すか値を替え、除けばそのキーと並びの最初の
その名前を消すので、どの一歩もこれを保つ。

この不変条件のもとで、表は連想リスト (並びに沿って写像を引いた列 `toList`) として振る舞う:

* 並びに名前は重ならず、並びの名前はちょうど写像のキー、
* 数・名前の並び・名前で引いた引数・名前があるかどうか・書き出した値は、連想リストのとおり、
* 既にある名前を置くとその位置で置き換わり、新しい名前は末尾に付き、
* 名前を除くと、その項目だけが消えて残りの順はそのまま。

主な主張は `Reachable.table`。
-/
namespace HttpCaching

namespace Entries

variable {e : Entries}

/-! ## 連想リストの位置 -/

theorem putList_eq_set {d : Directive} {l : List Directive} (h : d.name ∈ l.map (·.name)) :
    putList d l = l.set ((l.map (·.name)).idxOf d.name) d := by
  induction l with
  | nil => simp at h
  | cons x l ih =>
    by_cases hx : x.name = d.name
    · simp [putList, hx]
    · have hx' : (x.name == d.name) = false := by simpa using hx
      simp only [List.map_cons, List.mem_cons, Ne.symm hx, false_or] at h
      simp [putList, hx', ih h, List.idxOf_cons_ne _ hx]

theorem filter_eq_eraseIdx {l : List Directive} (h : (l.map (·.name)).Nodup) (n : String) :
    l.filter (·.name != n) = l.eraseIdx ((l.map (·.name)).idxOf n) := by
  induction l with
  | nil => rfl
  | cons x l ih =>
    simp only [List.map_cons, List.nodup_cons] at h
    by_cases hx : x.name = n
    · -- 除く名前は先頭にしかないので、残りは全部残る
      have hrest : l.filter (·.name != n) = l := List.filter_eq_self.mpr fun y hy => by
        have hy' : y.name ≠ n := fun he => h.1 (hx ▸ he ▸ List.mem_map_of_mem hy)
        simpa using hy'
      simp [hx, hrest]
    · simp [hx, List.idxOf_cons_ne _ hx, ih h.2]

namespace Wf

/-- 既にある名前を置くとその位置で置き換わり、新しい名前は末尾に付く。 -/
theorem toList_put_eq (h : e.Wf) (d : Directive) :
    (e.put d).toList =
      if d.name ∈ e.names then e.toList.set (e.names.idxOf d.name) d else e.toList ++ [d] := by
  rw [h.toList_put, names_eq]
  split
  · exact putList_eq_set ‹_›
  · exact putList_of_not_mem ‹_›

theorem toList_erase_eq (h : e.Wf) (n : String) :
    (e.erase n).toList = e.toList.eraseIdx (e.names.idxOf n) := by
  rw [h.toList_erase, names_eq]
  exact filter_eq_eraseIdx (names_eq e ▸ h.nodup) n

end Wf

/-! ## 空の名前 -/

/-- 表の不変条件: 二つの部分が合っていて、空の名前はない。 -/
structure Keyed (e : Entries) : Prop where
  wf : e.Wf
  named : "" ∉ e.names

namespace Keyed

theorem nodup (h : e.Keyed) : e.names.Nodup := h.wf.nodup

theorem empty : Entries.empty.Keyed := ⟨Wf.empty, List.not_mem_nil⟩

theorem put (h : e.Keyed) {d : Directive} (hd : d.name ≠ "") : (e.put d).Keyed := by
  refine ⟨h.wf.put d, ?_⟩
  rw [names_put]
  split
  · exact h.named
  · simp only [List.mem_append, List.mem_singleton, not_or]
    exact ⟨h.named, Ne.symm hd⟩

theorem erase (h : e.Keyed) (n : String) : (e.erase n).Keyed := by
  refine ⟨h.wf.erase n, fun hm => h.named ?_⟩
  cases hc : e.contains n with
  | true =>
    rw [erase_of_contains hc] at hm
    exact List.erase_subset hm
  | false =>
    rw [erase_of_not_contains hc] at hm
    exact hm

theorem putAll (h : e.Keyed) {ds : List Directive} (hds : ∀ d ∈ ds, d.name ≠ "") :
    (e.putAll ds).Keyed := by
  induction ds generalizing e with
  | nil => exact h
  | cons d ds ih =>
    exact ih (h.put (hds d List.mem_cons_self)) fun x hx => hds x (List.mem_cons_of_mem _ hx)

end Keyed

end Entries

namespace Directives

open Directive

variable {d : Directives}

theorem keyed_entriesOf (pairs : List Directive) : (entriesOf pairs).Keyed :=
  Entries.Keyed.empty.putAll fun x hx => by simpa using (List.mem_filter.mp hx).2

theorem ne_empty_of_isToken {n : String} (h : Field.isToken n = true) : n ≠ "" := by
  simp only [Field.isToken, Bool.and_eq_true, Bool.not_eq_true', String.isEmpty_eq_false_iff] at h
  exact h.1

theorem keyed_perform (h : d.entries.Keyed) (c : Call) : (d.perform c).after.entries.Keyed := by
  rcases perform_cases d c with ⟨he, -⟩ | ⟨e, he, -, -, hc⟩ | ⟨ps, -, he, -⟩
  · rw [he]
    exact h
  · rw [he]
    exact hc.preserve Entries.Keyed.empty (fun h hp => h.put (ne_empty_of_isToken hp.1))
      (fun n h => h.erase n) h
  · rw [he]
    exact keyed_entriesOf ps

/-- 作ってから届くディレクティブの集まり: どのディレクティブのリストからでも、ディレクティブ
なしからでも始め、その後どんな操作と複製を続けてもよい。 -/
inductive Reachable : Directives → Prop
  | ofList (role : Role) (pairs : List Directive) : Reachable (ofList role pairs)
  | empty (role : Role) : Reachable (empty role)
  | perform {d : Directives} (c : Call) : Reachable d → Reachable (d.perform c).after
  | copy {d : Directives} : Reachable d → Reachable d.copy

theorem Reachable.keyed (hd : d.Reachable) : d.entries.Keyed := by
  induction hd with
  | ofList role pairs => exact keyed_entriesOf pairs
  | empty role => exact Entries.Keyed.empty
  | perform c _ ih => exact keyed_perform ih c
  | copy _ ih => exact ih

/-- 作った集まりにどんな操作と複製を続けても、表の二つの部分は合っている: 名前の並びに名前は
重ならず、並びはちょうど写像のキーを並べ替えたもの。空の名前もない。そして表は連想リスト
`toList` として読める: 数は列の長さ、名前の並びは列の名前、名前で引いた引数と名前があるか
どうかは列でその名前の項目のとおり、書き出した値は列の項目を書き出してつないだもの。既にある
名前を置くとその位置で置き換わり、新しい名前は末尾に付き、名前を除くとその項目だけが消えて
残りの順はそのまま。 -/
theorem Reachable.table (hd : d.Reachable) :
    d.names.Nodup ∧ d.names.Perm (d.entries.values.toList.map (·.1)) ∧ "" ∉ d.names ∧
    d.size = d.toList.length ∧ d.names = d.toList.map (·.name) ∧
    (∀ n, d.get? n = (d.toList.find? (·.name == normalizeName n)).map (·.arg)) ∧
    (∀ n, d.has n ↔ normalizeName n ∈ d.names) ∧
    d.render = ", ".intercalate (d.toList.map Directive.render) ∧
    (∀ x : Directive, (d.entries.put x).toList =
      if x.name ∈ d.names then d.toList.set (d.names.idxOf x.name) x else d.toList ++ [x]) ∧
    (∀ n, (d.entries.erase n).toList = d.toList.eraseIdx (d.names.idxOf n)) := by
  have h := hd.keyed
  refine ⟨h.nodup, h.wf, h.named, Entries.size_eq _, Entries.names_eq _,
    fun n => h.wf.get?_eq_find? _, fun n => ?_, rfl, h.wf.toList_put_eq, h.wf.toList_erase_eq⟩
  rw [has, get?, h.wf.isSome_get?]
  rfl

/-- 読んだ値に汎用の書き込みを一つ続けた集まりは、表の性質をすべて満たす。 -/
theorem table_after_set :
    let d := ((ofList .response (Field.read ["max-age=60, no-cache"])).perform
      (.set "Public" (.bool true))).after
    d.Reachable ∧ d.names.Nodup ∧ d.names.Perm (d.entries.values.toList.map (·.1)) ∧
    "" ∉ d.names ∧ d.size = d.toList.length ∧ d.names = d.toList.map (·.name) ∧
    (∀ n, d.get? n = (d.toList.find? (·.name == normalizeName n)).map (·.arg)) ∧
    (∀ n, d.has n ↔ normalizeName n ∈ d.names) ∧
    d.render = ", ".intercalate (d.toList.map Directive.render) ∧
    (∀ x : Directive, (d.entries.put x).toList =
      if x.name ∈ d.names then d.toList.set (d.names.idxOf x.name) x else d.toList ++ [x]) ∧
    (∀ n, (d.entries.erase n).toList = d.toList.eraseIdx (d.names.idxOf n)) :=
  ⟨.perform _ (.ofList _ _), Reachable.table (.perform _ (.ofList _ _))⟩

end Directives

end HttpCaching
