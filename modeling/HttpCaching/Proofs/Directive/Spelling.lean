import HttpCaching.Proofs.Field.Repeated
/-!
# 名前の綴りと引き当て

ディレクティブ名は、要素を読むとき (`Field.readMember?`)、集まりを作るとき
(`Directives.entriesOf`)、引くとき (`Directives.get?`、`delete`) の三度、正規形
`normalizeName` を通る。正規形は二度かけても変わらない (`normalizeName_normalizeName`) ので、
作るときにもう一度正規形にしても読んだ名前は変わらない。そこで、読んだ要素の名前と同じ正規形を
持つどんな綴りで引いても、読んだ結果の集まりがその名前に持つ項目が見つかり、消すとその項目
だけが消える。

主な主張は `get_has_delete_of_spelling`。
-/
namespace HttpCaching

open HttpCaching.Field

namespace Directives

variable (lines : List String)

theorem nodup_names_read : ((read lines).map (·.name)).Nodup := by
  rw [Field.read, ← Entries.names_eq]
  exact (Entries.Wf.empty.putAll _).nodup

theorem exists_mem_read_of_mem_directivesOf {x : Directive} (hx : x ∈ directivesOf lines) :
    ∃ d ∈ read lines, d.name = x.name := by
  have hn : x.name ∈ (read lines).map (·.name) := by
    rw [names_read, List.mem_eraseDups]
    exact List.mem_map_of_mem hx
  simpa using hn

variable {lines}

/-- 読んだ結果から作った集まりでは、項目の名前と同じ正規形を持つ綴りで、その項目の引数が引ける。 -/
theorem get?_ofList_read_of_spelling {d : Directive} (hd : d ∈ read lines) {r : String}
    (hr : Directive.normalizeName r = d.name) (role : Role) :
    (ofList role (read lines)).get? r = some d.arg := by
  have htable : (ofList role (read lines)).entries.toList = read lines := toList_ofList_read role lines
  have hw : (ofList role (read lines)).entries.Wf := Entries.Wf.empty.putAll _
  rw [get?, hr]
  exact hw.mem_toList.mp (by rw [htable]; exact hd)

theorem filter_name_eq_erase {l : List Directive} (hn : (l.map (·.name)).Nodup) {d : Directive}
    (hd : d ∈ l) : l.filter (·.name != d.name) = l.erase d := by
  rw [(List.Nodup.of_map _ hn).erase_eq_filter d]
  refine List.filter_congr fun y hy => ?_
  -- 同じ名前の項目は `d` だけ
  by_cases hyd : y = d
  · simp [hyd]
  · have hname : y.name ≠ d.name := fun he => hyd (List.inj_on_of_nodup_map hn hy hd he)
    rw [bne_iff_ne.mpr hname, bne_iff_ne.mpr hyd]

/-- 読んだ結果から作った応答の集まりで、項目の名前と同じ正規形を持つ綴りで消すと、その項目だけが
消える。 -/
theorem delete_ofList_read_of_spelling {d : Directive} (hd : d ∈ read lines) {r : String}
    (hr : Directive.normalizeName r = d.name) :
    ∃ q, (ofList .response (read lines)).delete r = .ok q ∧ q.toList = (read lines).erase d := by
  refine ⟨_, rfl, ?_⟩
  have htable : (ofList .response (read lines)).entries.toList = read lines :=
    toList_ofList_read .response lines
  have hw : (ofList .response (read lines)).entries.Wf := Entries.Wf.empty.putAll _
  show ((ofList .response (read lines)).entries.erase (Directive.normalizeName r)).toList = _
  rw [hw.toList_erase, htable, hr]
  exact filter_name_eq_erase (nodup_names_read lines) hd

/-- 名前の正規形は二度かけても変わらない。要素を読んだディレクティブの名前と同じ正規形を持つ
どんな綴り (要素に書かれた名前も、正規形の名前そのものも) で、読んだ結果から作った応答の集まりを
引いても、その名前の項目の引数が見つかり、あると答え、消すとその項目だけが消える。 -/
theorem get_has_delete_of_spelling :
    (∀ s, Directive.normalizeName (Directive.normalizeName s) = Directive.normalizeName s) ∧
    ∀ (lines : List String) (x : Directive), x ∈ directivesOf lines →
      ∀ r, Directive.normalizeName r = x.name →
        ∃ d ∈ read lines, d.name = x.name ∧
          (ofList .response (read lines)).get? r = some d.arg ∧
          (ofList .response (read lines)).has r = true ∧
          ∃ q, (ofList .response (read lines)).delete r = .ok q ∧ q.toList = (read lines).erase d := by
  refine ⟨Directive.normalizeName_normalizeName, fun lines x hx r hr => ?_⟩
  obtain ⟨d, hd, hdx⟩ := exists_mem_read_of_mem_directivesOf lines hx
  have hrd : Directive.normalizeName r = d.name := hr.trans hdx.symm
  have hget := get?_ofList_read_of_spelling hd hrd .response
  exact ⟨d, hd, hdx, hget, by simp [has, hget], delete_ofList_read_of_spelling hd hrd⟩

/-- `max_age=5, no-cache` の要素 `max_age=5` は `max-age` と読め、` Max_Age` で引いても
その項目が見つかる。 -/
theorem get_has_delete_of_spelling_max_age :
    (⟨"max-age", .int 5⟩ : Directive) ∈ directivesOf ["max_age=5, no-cache"] ∧
      Directive.normalizeName " Max_Age" = "max-age" ∧
      ∃ d ∈ read ["max_age=5, no-cache"], d.name = "max-age" ∧
        (ofList .response (read ["max_age=5, no-cache"])).get? " Max_Age" = some d.arg ∧
        (ofList .response (read ["max_age=5, no-cache"])).has " Max_Age" = true ∧
        ∃ q, (ofList .response (read ["max_age=5, no-cache"])).delete " Max_Age" = .ok q ∧
          q.toList = (read ["max_age=5, no-cache"]).erase d := by
  have hx : (⟨"max-age", .int 5⟩ : Directive) ∈ directivesOf ["max_age=5, no-cache"] := by
    decide +kernel
  have hr : Directive.normalizeName " Max_Age" = "max-age" := by decide +kernel
  exact ⟨hx, hr, get_has_delete_of_spelling.2 _ _ hx _ hr⟩

end Directives

end HttpCaching
