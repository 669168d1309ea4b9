import HttpCaching.Directive.Call
import HttpCaching.Proofs.Directive.Render
/-!
# 作った集まりの書き出しと読み直し

フィールドの行から作り、そのあと `reset` 以外の操作を続けた集まりは、どのディレクティブも
書き出して読み直せる (`Entries.Rereadable`)。書き込みの検査は名前を正規形のトークンに限り、
引数を種類ごとに決まった形 (`Argument.Accepted`) に限るので、数として読まれる種類に負の数は
入らない。読んだ名前はトークンとは限らないが、フィールドの要素から切り出したものなので
切れずに読める。

主な主張は `read_render_of_built`: そうした集まりを書き出して一行として読むと、どの名前も
引用符の外で終わる限り、名前も順序もそのままで、引数は `Argument.reread` のとおりに戻る。
引用符を開いたまま終わる名前があると、書き出した値の区切りが変わる
(`read_render_quote_in_name`)。
-/
namespace HttpCaching

open HttpCaching.Field

/-! ## 検査を通った引数 -/

namespace Argument

/-- 書き込みの検査を通った引数の形。引数なしは delta-seconds 以外に、負でない数は
delta-seconds と `max-stale` に、数は拡張に、`*` は `max-stale` に、制御文字のないテキストは
フィールド一覧と拡張に。 -/
inductive Accepted : ArgumentClass → Argument → Prop
  | flag {cls : ArgumentClass} : cls ≠ .delta → Accepted cls .flag
  | seconds {cls : ArgumentClass} {k : Int64} : cls.readsSeconds = true → 0 ≤ k →
      Accepted cls (.int k)
  | number {k : Int64} : Accepted .any (.int k)
  | unbounded : Accepted .stale (.token "*")
  | text {cls : ArgumentClass} {s : String} : cls = .fields ∨ cls = .any → hasControl s = false →
      Accepted cls (.token s)

theorem Accepted.nonneg {cls : ArgumentClass} {b : Argument} (h : Accepted cls b) :
    b.NonnegSeconds cls := by
  intro k hk hc
  cases h with
  | seconds _ hk' =>
    cases hk
    exact hk'
  | number => simp [ArgumentClass.readsSeconds] at hc
  | flag | unbounded | text => cases hk

end Argument

namespace Directive

open Argument

theorem ofNumber_accepted {name : String} {cls : ArgumentClass} {n : Int64} {o : Operand}
    {a : Argument} (h : ofNumber name cls n o = .ok a) : Accepted cls a := by
  cases cls with
  | delta | stale =>
    simp only [ofNumber] at h
    split at h
    · cases h
    · rename_i hn
      cases h
      exact .seconds (by decide) (Int64.not_lt.mp hn)
  | any =>
    cases h
    exact .number
  | flag | fields => cases h

theorem ofText_accepted {name : String} {cls : ArgumentClass} {s : String} {o : Operand}
    {a : Argument} (h : ofText name cls s o = .ok a) : Accepted cls a := by
  cases cls with
  | delta =>
    simp only [ofText] at h
    split at h
    · cases h
      exact .seconds (by decide) (nonneg_of_readDeltaSeconds? (by assumption))
    · cases h
  | stale =>
    simp only [ofText] at h
    split at h
    · rename_i hs
      cases h
      rw [beq_iff_eq.mp hs]
      exact .unbounded
    · split at h
      · cases h
        exact .seconds (by decide) (nonneg_of_readDeltaSeconds? (by assumption))
      · cases h
  | fields | any =>
    simp only [ofText] at h
    split at h
    · cases h
    · rename_i hc
      cases h
      exact .text (by simp) (by simpa using hc)
  | flag => cases h

theorem checkArgument_accepted {name : String} {cls : ArgumentClass} {a b : Argument}
    (h : checkArgument name cls a = .ok b) : Accepted cls b := by
  cases a with
  | flag =>
    simp only [checkArgument] at h
    split at h
    · cases h
    · rename_i hc
      cases h
      exact .flag (by simpa using hc)
  | int n => exact ofNumber_accepted h
  | token s => exact ofText_accepted h

theorem eq_ok_of_map_some {ε α : Type} {x : Except ε α} {a : α}
    (h : (some <$> x) = .ok (some a)) : x = .ok a := by
  cases x <;> simp_all [Functor.map, Except.map]

theorem coerce_accepted {name : String} {o : Operand} {a : Argument}
    (h : coerce name o = .ok (some a)) : Accepted (ArgumentClass.of name) a := by
  cases o with
  | none => simp [coerce] at h
  | argument b => exact checkArgument_accepted (eq_ok_of_map_some h)
  | bool b =>
    simp only [coerce] at h
    split at h
    · cases h
    · split at h
      · cases h
      · rename_i hc
        cases h
        exact .flag (by simpa using hc)
  | duration d =>
    simp only [coerce] at h
    split at h
    · cases h
    · exact ofNumber_accepted (eq_ok_of_map_some h)
  | int n | int64 n | int32 n | uint32 n => exact ofNumber_accepted (eq_ok_of_map_some h)
  | uint n | uint64 n =>
    simp only [coerce] at h
    split at h
    · cases h
    · exact ofNumber_accepted (eq_ok_of_map_some h)
  | text s => exact ofText_accepted (eq_ok_of_map_some h)
  | texts ss =>
    simp only [coerce] at h
    split at h
    · cases h
    · split at h
      · cases h
      · exact ofText_accepted (eq_ok_of_map_some h)
  | float x => simp [coerce] at h

/-- まとめて書き込む検査を通った組: 名前は正規形のトークンで、保存する引数は引数の検査を
通ったもの。 -/
def CheckedPair (p : String × Option Argument) : Prop :=
  isToken p.1 = true ∧ normalizeName p.1 = p.1 ∧
    ∃ a b, p.2 = some b ∧ checkArgument p.1 (ArgumentClass.of p.1) a = .ok b

theorem CheckedPair.nonneg {p : String × Option Argument} (h : CheckedPair p) :
    ∀ b, p.2 = some b → b.NonnegSeconds (ArgumentClass.of p.1) := by
  obtain ⟨-, -, a, b, hb, hk⟩ := h
  intro b' hb'
  rw [hb, Option.some.injEq] at hb'
  exact hb' ▸ (checkArgument_accepted hk).nonneg

theorem checkAll_checked {ps : List Directive} {cs : List (String × Option Argument)}
    (h : Directives.checkAll ps = .ok cs) : ∀ p ∈ cs, CheckedPair p := by
  induction ps generalizing cs with
  | nil =>
    cases h
    simp
  | cons p ps ih =>
    simp only [Directives.checkAll] at h
    split at h
    · cases h
    · rename_i ht
      cases hc : coerce (normalizeName p.name) (.argument p.arg) with
      | error e => simp [hc, bind, Except.bind] at h
      | ok a =>
        cases hr : Directives.checkAll ps with
        | error e => simp [hc, hr, bind, Except.bind] at h
        | ok rest =>
          simp only [hc, hr, bind, Except.bind, pure, Except.pure, Except.ok.injEq] at h
          subst h
          intro q hq
          rcases List.mem_cons.mp hq with rfl | hq
          · refine ⟨by simpa using ht, normalizeName_normalizeName _, ?_⟩
            -- 読んだ引数の書き込みは、引数の検査の結果をそのまま保存する
            cases hk : checkArgument (normalizeName p.name)
                (ArgumentClass.of (normalizeName p.name)) p.arg with
            | error e => simp [coerce, hk, Functor.map, Except.map] at hc
            | ok b =>
              simp only [coerce, hk, Functor.map, Except.map, Except.ok.injEq] at hc
              exact ⟨p.arg, b, hc.symm, hk⟩
          · exact ih hr q hq

/-! ## 書き込む名前 -/

/-- 正規形のトークンの名前は、負でない数の引数となら読み直せる。 -/
theorem rereadable_of_token {n : String} {a : Argument} (ht : isToken n = true)
    (hn : normalizeName n = n) (ha : a.NonnegSeconds (ArgumentClass.of n)) :
    (⟨n, a⟩ : Directive).Rereadable where
  normal := hn
  nonempty := by
    simp only [isToken, Bool.and_eq_true, Bool.not_eq_true', String.isEmpty_eq_false_iff] at ht
    exact ht.1
  noEquals := fun he => absurd (isTokenChar_of_isToken ht '=' he) (by decide)
  uncut := (bare_of_isToken ht).start.2
  nonneg := ha

end Directive

theorem Role.token_of_mem_typedWrites (r : Role) :
    ∀ n ∈ r.typedWrites, isToken n = true ∧ Directive.normalizeName n = n := by
  cases r <;> decide +kernel

/-! ## 表の不変条件 -/

namespace Entries

theorem Wf.store {e : Entries} (h : e.Wf) (n : String) (o : Option Argument) :
    (Directives.store e n o).Wf := by
  cases o with
  | none => exact h.erase n
  | some a => exact h.put _

/-- 表の不変条件: 二つの部分が合っていて、どのディレクティブも書き出して読み直せる。 -/
structure Rereadable (e : Entries) : Prop where
  wf : e.Wf
  each : ∀ d ∈ e.toList, d.Rereadable

namespace Rereadable

variable {e : Entries}

theorem nodup (h : e.Rereadable) : e.names.Nodup := h.wf.nodup

theorem empty : Entries.empty.Rereadable := ⟨Wf.empty, by simp⟩

theorem put (h : e.Rereadable) {d : Directive} (hd : d.Rereadable) : (e.put d).Rereadable :=
  ⟨h.wf.put d, fun x hx => (mem_put h.wf hx).elim (fun hx => hx ▸ hd) (h.each x)⟩

theorem erase (h : e.Rereadable) (n : String) : (e.erase n).Rereadable :=
  ⟨h.wf.erase n, fun x hx => h.each x (mem_erase h.wf hx).1⟩

theorem putAll (h : e.Rereadable) {ds : List Directive} (hds : ∀ d ∈ ds, d.Rereadable) :
    (e.putAll ds).Rereadable := by
  induction ds generalizing e with
  | nil => exact h
  | cons d ds ih =>
    exact ih (h.put (hds d List.mem_cons_self)) fun x hx => hds x (List.mem_cons_of_mem _ hx)

/-- 正規形のトークンの名前に、負でない数を保存しても、除いても、不変条件は保たれる。 -/
theorem store (h : e.Rereadable) {n : String} {o : Option Argument} (ht : isToken n = true)
    (hn : Directive.normalizeName n = n)
    (ho : ∀ a, o = some a → a.NonnegSeconds (ArgumentClass.of n)) :
    (Directives.store e n o).Rereadable := by
  cases o with
  | none => exact h.erase n
  | some a => exact h.put (Directive.rereadable_of_token ht hn (ho a rfl))

/-- 検査を通った組を順に保存しても、不変条件は保たれる。 -/
theorem storeAll (h : e.Rereadable) {cs : List (String × Option Argument)}
    (hcs : ∀ p ∈ cs, Directive.CheckedPair p) :
    (cs.foldl (fun e p => Directives.store e p.1 p.2) e).Rereadable := by
  induction cs generalizing e with
  | nil => exact h
  | cons p cs ih =>
    have hp := hcs p List.mem_cons_self
    exact ih (h.store hp.1 hp.2.1 hp.nonneg) fun q hq => hcs q (List.mem_cons_of_mem _ hq)

end Rereadable

end Entries

/-! ## 一回の操作 -/

namespace Directives

open Directive

variable {d d' : Directives}

theorem set_rereadable (h : d.entries.Rereadable) {n : String} {o : Operand}
    (hs : d.set n o = .ok d') : d'.entries.Rereadable := by
  simp only [set] at hs
  split at hs
  · cases hs
  · split at hs
    · cases hs
    · rename_i ht
      cases hc : coerce (normalizeName n) o with
      | error e => simp [hc, bind, Except.bind] at hs
      | ok a =>
        simp only [hc, bind, Except.bind, pure, Except.pure, Except.ok.injEq] at hs
        subst hs
        refine h.store (by simpa using ht) (normalizeName_normalizeName n) fun b hb => ?_
        subst hb
        exact (coerce_accepted hc).nonneg

theorem update_ok {ps : List Directive} (hu : d.update ps = .ok d') :
    ∃ cs, checkAll ps = .ok cs ∧ d' = d.changed (cs.foldl (fun e p => store e p.1 p.2) d.entries) := by
  simp only [update] at hu
  split at hu
  · cases hu
  · cases hc : checkAll ps with
    | error e => simp [hc, bind, Except.bind] at hu
    | ok cs =>
      simp only [hc, bind, Except.bind, pure, Except.pure, Except.ok.injEq] at hu
      exact ⟨cs, rfl, hu.symm⟩

theorem update_rereadable (h : d.entries.Rereadable) {ps : List Directive}
    (hu : d.update ps = .ok d') : d'.entries.Rereadable := by
  obtain ⟨cs, hc, rfl⟩ := update_ok hu
  exact h.storeAll (checkAll_checked hc)

theorem setFields_rereadable (h : d.entries.Rereadable) {n : String} {fs : List String}
    (ht : isToken n = true) (hn : normalizeName n = n) (hs : d.setFields n fs = .ok d') :
    d'.entries.Rereadable := by
  simp only [setFields] at hs
  split at hs
  · cases hs
    exact h.put (rereadable_of_token ht hn fun _ hk => by cases hk)
  · split at hs
    · cases hs
    · cases hs
      exact h.put (rereadable_of_token ht hn fun _ hk => by cases hk)

theorem seconds_nonneg {age : Duration} (h : 0 ≤ age.ns) : 0 ≤ age.seconds := by
  rw [Duration.seconds, Int64.le_iff_toInt_le] at *
  rw [Int64.toInt_div_of_ne_right _ _ (by decide)]
  exact Int.tdiv_nonneg h (by decide)

theorem setDelta_rereadable (h : d.entries.Rereadable) {n : String} {age : Duration}
    (ht : isToken n = true) (hn : normalizeName n = n) (hs : d.setDelta n age = .ok d') :
    d'.entries.Rereadable := by
  simp only [setDelta] at hs
  split at hs
  · cases hs
  · rename_i hage
    cases hs
    refine h.put (rereadable_of_token ht hn fun k hk _ => ?_)
    cases hk
    exact seconds_nonneg (Int64.not_lt.mp hage)

theorem written_rereadable (h : d.entries.Rereadable) {r : Except DirectiveError Directives}
    (hr : ∀ d', r = .ok d' → d'.entries.Rereadable) : (d.written r).after.entries.Rereadable := by
  cases r with
  | ok d' => exact hr d' rfl
  | error e => exact h

theorem rereadable_perform (h : d.entries.Rereadable) (c : Call) (hc : ∀ ps, c ≠ .reset ps) :
    (d.perform c).after.entries.Rereadable := by
  unfold perform
  split
  · exact h
  · rename_i havail
    -- 型付きの書き込みは、その役割の型付きの名前にだけ届く
    have typed : ∀ n, d.role.typedWrites.contains n = true →
        isToken n = true ∧ normalizeName n = n :=
      fun n hn => Role.token_of_mem_typedWrites d.role n (by simpa using hn)
    cases c with
    | set n o => exact written_rereadable h fun _ => set_rereadable h
    | delete n =>
      refine written_rereadable h fun _ hs => ?_
      simp only [delete] at hs
      split at hs
      · cases hs
      · cases hs
        exact h.erase _
    | clear =>
      refine written_rereadable h fun _ hs => ?_
      simp only [Directives.clear] at hs
      split at hs
      · cases hs
      · cases hs
        exact Entries.Rereadable.empty
    | update ps => exact written_rereadable h fun _ => update_rereadable h
    | setFlag n on =>
      obtain ⟨ht, hn⟩ := typed n (by simpa [Call.available] using havail)
      show Entries.Rereadable (if on then _ else _)
      split
      · exact h.put (rereadable_of_token ht hn fun _ hk => by cases hk)
      · exact h.erase n
    | setFields n fs =>
      obtain ⟨ht, hn⟩ := typed n (by simpa [Call.available] using havail)
      exact written_rereadable h fun _ => setFields_rereadable h ht hn
    | setDelta n age =>
      obtain ⟨ht, hn⟩ := typed n (by simpa [Call.available] using havail)
      exact written_rereadable h fun _ => setDelta_rereadable h ht hn
    | remove n => exact h.erase n
    | reset ps => exact absurd rfl (hc ps)
    | each stop => cases stop <;> exact h
    | get _ | has _ | size | names | provided | render | describe | read _ | copy => exact h

end Directives

/-! ## 読んだ値 -/

namespace Field

theorem plain_of_isOws {c : Char} (h : Text.isOws c = true) : Scan.Plain c := by
  simp only [Text.isOws, Bool.or_eq_true, beq_iff_eq] at h
  rcases h with rfl | rfl <;> decide

theorem uncut_of_mem_members {v m : String} (hm : m ∈ members v) :
    Scan.start.uncut m.toList = true := by
  simp only [members, List.mem_filter, List.mem_map] at hm
  obtain ⟨⟨p, hp, rfl⟩, -⟩ := hm
  rw [Text.trimOws, String.toList_ofList]
  exact Scan.uncut_trimList (fun _ hc => plain_of_isOws hc) (uncut_of_mem_pieces hp)

theorem readArgument_nonneg (name raw : String) :
    (readArgument name raw).NonnegSeconds (ArgumentClass.of name) := by
  intro k hk _
  simp only [readArgument] at hk
  split at hk
  · cases hk
  · split at hk
    · split at hk
      · cases hk
        exact nonneg_of_readDeltaSeconds? (by assumption)
      · cases hk
    · cases hk

theorem rereadable_of_readMember? {m : String} {d : Directive}
    (hm : Scan.start.uncut m.toList = true) (h : readMember? m = some d) : d.Rereadable := by
  simp only [readMember?, List.span_eq_takeWhile_dropWhile] at h
  have hraw : Scan.start.uncut (m.toList.takeWhile (· != '=')) = true := by
    rw [← List.takeWhile_append_dropWhile (p := (· != '=')) (l := m.toList)] at hm
    exact Scan.uncut_of_append hm
  have heq : '=' ∉ m.toList.takeWhile (· != '=') := fun he => by
    simpa using List.mem_takeWhile_imp he
  split at h
  · cases h
  · rename_i hne
    -- 名前の性質は引数によらない
    have hname : ∀ a : Argument, a.NonnegSeconds (ArgumentClass.of
        (Directive.normalizeName (String.ofList (m.toList.takeWhile (· != '='))))) →
        (⟨Directive.normalizeName (String.ofList (m.toList.takeWhile (· != '='))), a⟩ :
          Directive).Rereadable :=
      fun _ ha => ⟨Directive.normalizeName_normalizeName _, by simpa using hne,
        Directive.eq_not_mem_normalizeName (by simpa using heq),
        Directive.uncut_normalizeName (by simpa using hraw), ha⟩
    -- `cases` では正規形を開いてしまうので、等式から直接置き換える
    split at h
    · obtain rfl := Option.some.inj h
      exact hname _ fun _ hk => by cases hk
    · obtain rfl := Option.some.inj h
      exact hname _ (readArgument_nonneg _ _)

end Field

namespace Directives

open HttpCaching.Field

theorem rereadable_read (lines : List String) :
    (Entries.empty.putAll ((lines.flatMap members).filterMap readMember?)).Rereadable := by
  refine Entries.Rereadable.empty.putAll fun d hd => ?_
  obtain ⟨m, hm, hd⟩ := List.mem_filterMap.mp hd
  obtain ⟨v, -, hm⟩ := List.mem_flatMap.mp hm
  exact rereadable_of_readMember? (uncut_of_mem_members hm) hd

theorem rereadable_ofList_read (role : Role) (lines : List String) :
    (ofList role (read lines)).entries.Rereadable := by
  have h := rereadable_read lines
  refine Entries.Rereadable.empty.putAll fun x hx => ?_
  obtain ⟨hx, -⟩ := List.mem_filter.mp hx
  obtain ⟨d, hd, rfl⟩ := List.mem_map.mp hx
  have hr := h.each d hd
  rw [hr.normal]
  exact hr

/-! ## 作って操作した集まり -/

/-- フィールドの行から作り、`reset` 以外の操作と複製を続けて得られる集まり。行がなければ
ディレクティブのない集まり。 -/
inductive Built : Directives → Prop
  | parsed (role : Role) (lines : List String) : Built (ofList role (read lines))
  | step {d : Directives} (c : Call) : (∀ ps, c ≠ .reset ps) → Built d → Built (d.perform c).after
  | copy {d : Directives} : Built d → Built d.copy

theorem Built.rereadable {d : Directives} (hd : d.Built) : d.entries.Rereadable := by
  induction hd with
  | parsed role lines => exact rereadable_ofList_read role lines
  | step c hc _ ih => exact rereadable_perform ih c hc
  | copy _ ih => exact ih

/-- 作って操作した集まりを書き出して一行として読むと、どの名前も引用符の外で終わる限り、
名前も順序もそのままで、引数は `Argument.reread` のとおりに戻る。 -/
theorem read_render_of_built {d : Directives} (hd : d.Built)
    (hq : ∀ n ∈ d.names, Scan.start.run n.toList = Scan.start) :
    read [d.render] = d.toList.map Directive.reread := by
  have h := hd.rereadable
  exact Entries.read_render h.nodup h.each fun x hx =>
    hq x.name (by rw [names, Entries.names_eq]; exact List.mem_map_of_mem hx)

/-- 読んだ値に拡張ディレクティブの数を書き込んだ集まり: 名前は引用符の外で終わり、書き出して
読むと、数を書いた拡張ディレクティブだけが十進表記のトークンになる。 -/
theorem read_render_set_extension :
    (∀ n ∈ ((ofList .response (read ["no-cache=\"a, b\", Max-Age=60"])).perform
        (.set "x-ext" (.int 5))).after.names, Scan.start.run n.toList = Scan.start) ∧
    read [((ofList .response (read ["no-cache=\"a, b\", Max-Age=60"])).perform
        (.set "x-ext" (.int 5))).after.render] =
      ((ofList .response (read ["no-cache=\"a, b\", Max-Age=60"])).perform
        (.set "x-ext" (.int 5))).after.toList.map Directive.reread :=
  ⟨by decide +kernel, read_render_of_built
    (.step _ (fun _ h => Call.noConfusion h) (.parsed _ _)) (by decide +kernel)⟩

/-- 読んだ名前は引用符を開いたまま終わりうる。そうした名前の後では、書き出した値の区切りが
変わり、二つのディレクティブが一つに読まれる。 -/
theorem read_render_quote_in_name :
    (ofList .plain (read ["\"a", "b"])).names = ["\"a", "b"] ∧
      (read [(ofList .plain (read ["\"a", "b"])).render]).map (·.name) = ["\"a, b"] := by
  decide +kernel

end Directives

end HttpCaching
