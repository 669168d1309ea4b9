import HttpCaching.Proofs.Directive.RoundTrip
import HttpCaching.Proofs.Directive.Typed
/-!
# 繰り返された名前: 最初の位置と最後の引数

Cache-Control の行を読むときは、各要素を読んだディレクティブの列 (`Field.directivesOf`) を
一つずつ表へ入れ、同じ名前が再び現れると、表の中のその位置で引数を上書きする。これは次の
参照仕様に等しい: 列に現れる名前を、最初に現れた順に一つずつ並べ (`List.eraseDups`)、
それぞれに最後に現れた引数 (`Field.lastArg?`) を付ける (`Field.firstPlaceLastArg`)。

証明は列の末尾に一つ足す帰納法で、表の名前の並びと名前で引いた引数を別々に追う。
表を順に見る列は、並びに沿って名前で引いたものなので、この二つから決まる。

主な主張は `Field.read_eq_firstPlaceLastArg`: 読んだ結果は参照仕様のとおりで、そこから
どの役割の集まりを作っても、作るときの正規化は名前を変えず、同じ項目が同じ順に並ぶ。
-/
namespace HttpCaching

namespace Entries

theorem putAll_snoc (e : Entries) (ds : List Directive) (d : Directive) :
    e.putAll (ds ++ [d]) = (e.putAll ds).put d := by
  simp [putAll, List.foldl_append]

end Entries

namespace Field

/-! ## 参照仕様 -/

/-- 繰り返した名前を合わせる前の、フィールドの行のメンバーごとのディレクティブ。 -/
def directivesOf (lines : List String) : List Directive :=
  (lines.flatMap members).filterMap readMember?

/-- ディレクティブのリストで名前に最後に与えた引数。 -/
def lastArg? (ds : List Directive) (name : String) : Option Argument :=
  (ds.reverse.find? (·.name == name)).map (·.arg)

/-- ディレクティブのリストの名前それぞれを一度ずつ、最初に現れた順に、
最後に現れたときの引数とともに。 -/
def firstPlaceLastArg (ds : List Directive) : List Directive :=
  (ds.map (·.name)).eraseDups.filterMap fun n => (lastArg? ds n).map (Directive.mk n)

theorem lastArg?_snoc (ds : List Directive) (d : Directive) (n : String) :
    lastArg? (ds ++ [d]) n = if d.name = n then some d.arg else lastArg? ds n := by
  by_cases h : d.name = n <;> simp [lastArg?, h]

theorem eraseDups_snoc (l : List String) (a : String) :
    (l ++ [a]).eraseDups = if a ∈ l then l.eraseDups else l.eraseDups ++ [a] := by
  rw [List.eraseDups_append]
  by_cases h : a ∈ l <;> simp [List.removeAll, h, List.eraseDups_cons]

/-! ## 一つずつ入れた表 -/

theorem names_putAll_empty (ds : List Directive) :
    (Entries.empty.putAll ds).names = (ds.map (·.name)).eraseDups := by
  induction ds using List.reverseRecOn with
  | nil => rfl
  | append_singleton ds d ih =>
    -- 写像にある名前は、並びにある名前
    have hw : (Entries.empty.putAll ds).Wf := Entries.Wf.empty.putAll ds
    rw [Entries.putAll_snoc, Entries.names_put, ih, List.map_append, List.map_singleton,
      eraseDups_snoc]
    simp only [← hw.mem_iff, ih, List.mem_eraseDups]

theorem get?_putAll_empty (ds : List Directive) (n : String) :
    (Entries.empty.putAll ds).get? n = lastArg? ds n := by
  induction ds using List.reverseRecOn with
  | nil => rfl
  | append_singleton ds d ih =>
    rw [Entries.putAll_snoc, lastArg?_snoc, Entries.get?_put, ih]
    by_cases h : d.name = n
    · rw [if_pos h.symm, if_pos h]
    · rw [if_neg (Ne.symm h), if_neg h]

theorem lastArg?_of_mem {ds : List Directive} {n : String} (hn : n ∈ ds.map (·.name)) :
    ∃ a, lastArg? ds n = some a := by
  obtain ⟨x, hx, rfl⟩ := List.mem_map.mp hn
  have hfind : (ds.reverse.find? (·.name == x.name)).isSome :=
    List.find?_isSome.mpr ⟨x, List.mem_reverse.mpr hx, beq_self_eq_true _⟩
  obtain ⟨y, hy⟩ := Option.isSome_iff_exists.mp hfind
  exact ⟨y.arg, by rw [lastArg?, hy]; rfl⟩

theorem putAll_empty_eq_firstPlaceLastArg (ds : List Directive) :
    (Entries.empty.putAll ds).toList = firstPlaceLastArg ds := by
  rw [Entries.toList, names_putAll_empty, firstPlaceLastArg, ← List.filterMap_eq_map]
  refine List.filterMap_congr fun n hn => ?_
  obtain ⟨a, ha⟩ := lastArg?_of_mem (List.mem_eraseDups.mp hn)
  simp [get?_putAll_empty, ha]

/-! ## 読んだ結果から作る集まり -/

theorem toList_ofList_read (role : Role) (lines : List String) :
    (Directives.ofList role (read lines)).toList = read lines := by
  have h : (Entries.empty.putAll (directivesOf lines)).Rereadable := Directives.rereadable_read lines
  have hkeep : ((read lines).map fun d => { d with name := Directive.normalizeName d.name }).filter
      (fun d => !d.name.isEmpty) = read lines := by
    rw [List.map_congr_left (g := id) fun d hd => by simp [(h.each d hd).normal], List.map_id]
    exact List.filter_eq_self.mpr fun d hd => by simpa using (h.each d hd).nonempty
  have hfresh : ∀ d ∈ read lines, d.name ∉ Entries.empty.names := by simp [Entries.empty]
  have hnodup : ((read lines).map (·.name)).Nodup := by
    rw [read, ← Entries.names_eq]
    exact h.nodup
  simp only [Directives.toList, Directives.ofList, Directives.entriesOf, hkeep]
  exact Entries.toList_putAll_of_nodup Entries.Wf.empty (read lines) hnodup hfresh

theorem names_read (lines : List String) :
    (read lines).map (·.name) = ((directivesOf lines).map (·.name)).eraseDups := by
  rw [read, ← Entries.names_eq]
  exact names_putAll_empty _

theorem lastArg?_of_mem_read {lines : List String} {d : Directive} (hd : d ∈ read lines) :
    lastArg? (directivesOf lines) d.name = some d.arg := by
  rw [← get?_putAll_empty]
  exact (Entries.Wf.empty.putAll _).mem_toList.mp hd

/-- 行を読んだ結果は参照仕様のとおり: 各要素を読んだ列の名前を最初に現れた順に一つずつ並べ、
それぞれに最後に現れた引数を付けたもの。そこからどの役割の集まりを作っても、同じ項目が
同じ順に並ぶ。 -/
theorem read_eq_firstPlaceLastArg (lines : List String) :
    read lines = firstPlaceLastArg (directivesOf lines) ∧
      (read lines).map (·.name) = ((directivesOf lines).map (·.name)).eraseDups ∧
      (∀ d ∈ read lines, lastArg? (directivesOf lines) d.name = some d.arg) ∧
      ∀ role, (Directives.ofList role (read lines)).toList = read lines :=
  ⟨putAll_empty_eq_firstPlaceLastArg _, names_read lines, fun _ => lastArg?_of_mem_read,
    fun role => toList_ofList_read role lines⟩

/-- 繰り返された名前は最初の位置に、最後の引数で残る。 -/
example : firstPlaceLastArg [⟨"max-age", .int 1⟩, ⟨"no-cache", .flag⟩, ⟨"max-age", .int 2⟩] =
    [⟨"max-age", .int 2⟩, ⟨"no-cache", .flag⟩] := by
  decide

end Field

end HttpCaching
