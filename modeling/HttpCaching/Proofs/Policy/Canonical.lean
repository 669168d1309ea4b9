import HttpCaching.Policy.Store
import HttpCaching.Proofs.Directive.RoundTrip
/-!
# 方針の正規形は動かない

方針の値は、応答ディレクティブとしてまとめて書き込み (`Directives.update`)、書き出し直した形で
保存する (`Policy.canonicalize`)。書き込みの検査を通った引数は種類ごとに形が決まっていて
(`Argument.Accepted`)、書き出して読み直しても検査を同じように通り、同じ表記に戻る。名前は
正規形のトークンなので、書き出した値は区切りも名前もそのままに読める。

主な主張は `canonicalize_fixed`: 正規形はもう一度正規形にしても変わらず、保管庫が保存する
値はどれも正規形の不動点。
-/
namespace HttpCaching

open HttpCaching.Field

namespace Argument.Accepted

open Directive

variable {cls : ArgumentClass} {b : Argument}

theorem hasControl_of_isToken {s : String} (h : isToken s = true) : hasControl s = false := by
  have ascii : ∀ n, n < 0x80 → isTokenChar (Char.ofNat n) = true → isControl (Char.ofNat n) = false := by
    decide +kernel
  simp only [hasControl, List.any_eq_false]
  intro c hc
  have ht := isTokenChar_of_isToken h c hc
  have hc' := ascii c.toNat (toNat_lt_of_isTokenChar ht) (by simpa using ht)
  simpa using hc'

theorem checkArgument_reread (h : Accepted cls b) (name : String) :
    checkArgument name cls (b.reread cls) = .ok (b.reread cls) := by
  cases h with
  | flag hne => simp [reread, checkArgument, hne]
  | @seconds cls k hr hk =>
    have hn : ¬k < 0 := Int64.not_lt.mpr hk
    cases cls <;> simp_all [reread, checkArgument, ofNumber, ArgumentClass.readsSeconds]
  | @number k =>
    have hc : hasControl k.toInt.repr = false := hasControl_of_isToken (isToken_toString_int _)
    simp [reread, ArgumentClass.readsSeconds, checkArgument, ofText, hc]
  | unbounded =>
    have hn : readDeltaSeconds? "*" = none := by decide
    simp [reread, ArgumentClass.readsSeconds, hn, checkArgument, ofText]
  | text hcls hs =>
    rcases hcls with rfl | rfl <;> simp [reread, ArgumentClass.readsSeconds, checkArgument, ofText, hs]

theorem render_reread {name : String} (h : Accepted (ArgumentClass.of name) b) :
    Directive.render ⟨name, b.reread (ArgumentClass.of name)⟩ = Directive.render ⟨name, b⟩ := by
  generalize hc : ArgumentClass.of name = cls at h
  cases h with
  | flag => rfl
  | seconds hr => simp [reread, hr]
  | @number k =>
    have ht : isToken k.toInt.repr = true := isToken_toString_int _
    simp [reread, ArgumentClass.readsSeconds, Directive.render, hc, tokenOrQuoted, ht]
  | unbounded =>
    have hn : readDeltaSeconds? "*" = none := by decide
    simp [reread, ArgumentClass.readsSeconds, hn]
  | text hcls => rcases hcls with rfl | rfl <;> simp [reread, ArgumentClass.readsSeconds]

end Argument.Accepted

/-! ## まとめて書き込んだ表 -/

namespace Directive

open Argument

/-- まとめた書き込みが保存するディレクティブ: 名前は正規形のトークンで、引数は検査を
通ったもの。 -/
def Stored (x : Directive) : Prop :=
  isToken x.name = true ∧ normalizeName x.name = x.name ∧ Accepted (ArgumentClass.of x.name) x.arg

theorem CheckedPair.stored {p : String × Option Argument} (h : CheckedPair p) :
    ∀ b, p.2 = some b → Stored ⟨p.1, b⟩ := by
  obtain ⟨ht, hn, a, b, hb, hk⟩ := h
  intro b' hb'
  rw [hb, Option.some.injEq] at hb'
  subst hb'
  exact ⟨ht, hn, checkArgument_accepted hk⟩

theorem checkAll_reread {l : List Directive} (hl : ∀ x ∈ l, x.Stored) :
    Directives.checkAll (l.map reread) = .ok ((l.map reread).map fun x => (x.name, some x.arg)) := by
  induction l with
  | nil => rfl
  | cons x l ih =>
    obtain ⟨ht, hn, ha⟩ := hl x List.mem_cons_self
    have hk := ha.checkArgument_reread x.name
    simp [Directives.checkAll, reread, hn, ht, coerce, hk,
      ih fun y hy => hl y (List.mem_cons_of_mem _ hy), bind, Except.bind, pure, Except.pure,
      Functor.map, Except.map]

end Directive

namespace Entries

open Directive

/-- 検査を通った組を順に保存した表のディレクティブは、どれも `Stored`。 -/
theorem stored_storeAll {e : Entries} (hw : e.Wf) (he : ∀ x ∈ e.toList, x.Stored)
    {cs : List (String × Option Argument)} (hcs : ∀ p ∈ cs, CheckedPair p) :
    ∀ x ∈ (cs.foldl (fun e p => Directives.store e p.1 p.2) e).toList, x.Stored := by
  induction cs generalizing e with
  | nil => exact he
  | cons p cs ih =>
    refine ih (hw.store p.1 p.2) ?_ fun q hq => hcs q (List.mem_cons_of_mem _ hq)
    have hp := hcs p List.mem_cons_self
    obtain ⟨n, _ | b⟩ := p
    · intro x hx
      exact he x (mem_erase hw hx).1
    · intro x hx
      exact (mem_put hw hx).elim (fun h => h ▸ hp.stored b rfl) (he x)

/-- 引数のある組だけを順に保存するのは、ディレクティブを順に入れるのと同じ。 -/
theorem foldl_store_some (e : Entries) (ds : List Directive) :
    (ds.map fun x => (x.name, some x.arg)).foldl (fun e p => Directives.store e p.1 p.2) e =
      e.putAll ds := by
  induction ds generalizing e with
  | nil => rfl
  | cons x ds ih => exact ih (e.put x)

end Entries

/-! ## 正規形 -/

namespace Policy

open Directive

/-- 正規形は、読んだ値の検査を通った組を空の表に順に保存して書き出したもの。 -/
theorem canonicalize_ok {x c : String} (h : canonicalize x = .ok c) :
    ∃ cs, Directives.checkAll (read [x]) = .ok cs ∧
      c = (cs.foldl (fun e p => Directives.store e p.1 p.2) Entries.empty).render := by
  simp only [canonicalize] at h
  split at h
  · rename_i d hd
    cases h
    obtain ⟨cs, hc, rfl⟩ := Directives.update_ok hd
    exact ⟨cs, hc, rfl⟩
  · cases h

theorem canonicalize_canonicalize {x c : String} (h : canonicalize x = .ok c) :
    canonicalize c = .ok c := by
  obtain ⟨cs, hcs, rfl⟩ := canonicalize_ok h
  have hchecked := checkAll_checked hcs
  generalize hE : cs.foldl (fun e p => Directives.store e p.1 p.2) Entries.empty = E
  have hR : E.Rereadable := hE ▸ Entries.Rereadable.empty.storeAll hchecked
  have hS : ∀ y ∈ E.toList, y.Stored :=
    hE ▸ Entries.stored_storeAll Entries.Wf.empty (by simp) hchecked
  -- 名前はトークンなので引用符の外で終わり、書き出した値はそのまま読み直せる
  have hread : read [E.render] = E.toList.map reread :=
    Entries.read_render hR.nodup hR.each fun y hy => (bare_of_isToken (hS y hy).1).start.1
  have hnames : ((E.toList.map reread).map (·.name)).Nodup := by
    simpa [List.map_map, Function.comp_def, reread, Entries.names_eq] using hR.nodup
  have hrender : (Entries.empty.putAll (E.toList.map reread)).render = E.render := by
    rw [Entries.render, Entries.render,
      Entries.toList_putAll_of_nodup Entries.Wf.empty _ hnames (by simp [Entries.empty])]
    simp only [Entries.toList_empty, List.nil_append, List.map_map]
    congr 1
    exact List.map_congr_left fun y hy => (hS y hy).2.2.render_reread
  have hupdate : (Directives.empty .response).update (E.toList.map reread) =
      .ok ((Directives.empty .response).changed (Entries.empty.putAll (E.toList.map reread))) := by
    rw [← Entries.foldl_store_some]
    simp only [Directives.update, checkAll_reread hS]
    rfl
  simp only [canonicalize, hread, hupdate, Directives.changed, Directives.render, hrender]

/-- 表の上の保存が成功すれば、保存した方針の値は与えた値の正規形。 -/
theorem Table.put_canonical {σ : Type}
    {run : σ → String → List Sql.Value → Bool → σ × Except TableError Sql.QueryResult} {db : σ}
    {pathPrefix text : String} {p : Policy} (h : (Table.put run db pathPrefix text).2 = .ok p) :
    canonicalize text = .ok p.cacheControl := by
  unfold Table.put at h
  split at h
  · cases h
  · rename_i c hc
    split at h
    dsimp only at h
    split at h
    · cases h
      exact hc
    · cases h

theorem put_canonical {s : Store} {w : Sql.World} {pathPrefix text : String} {p : Policy}
    (h : (s.put w pathPrefix text).answer = .ok p) : canonicalize text = .ok p.cacheControl := by
  cases s with
  | memory ps =>
    dsimp only [Store.put] at h
    split at h
    · cases h
    · rename_i c hc
      cases h
      exact hc
  | table c =>
    have h : (Table.put runConnection (c, w) pathPrefix text).2 = .ok p := h
    exact Table.put_canonical h

/-- 正規形はもう一度正規形にしても変わらず、保管庫が保存する値はどれもその不動点。 -/
theorem canonicalize_fixed :
    (∀ x c : String, canonicalize x = .ok c → canonicalize c = .ok c) ∧
      ∀ (s : Store) (w : Sql.World) (pathPrefix text : String) (p : Policy),
        (s.put w pathPrefix text).answer = .ok p →
          canonicalize p.cacheControl = .ok p.cacheControl :=
  ⟨fun _ _ => canonicalize_canonicalize, fun _ _ _ _ _ h => canonicalize_canonicalize (put_canonical h)⟩

/-- 大文字の名前、フィールド一覧、空白を含む拡張の引数: 正規形とその正規形。 -/
theorem canonicalize_mixed_case :
    canonicalize "Max-Age=60, No-Cache=Set-Cookie, x-note=\"a b\"" =
        .ok "max-age=60, no-cache=\"Set-Cookie\", x-note=\"a b\"" ∧
      canonicalize "max-age=60, no-cache=\"Set-Cookie\", x-note=\"a b\"" =
        .ok "max-age=60, no-cache=\"Set-Cookie\", x-note=\"a b\"" := by
  -- 失敗の値には等号の判定がないので、値だけを比べて評価する
  have hs : (canonicalize "Max-Age=60, No-Cache=Set-Cookie, x-note=\"a b\"").toOption =
      some "max-age=60, no-cache=\"Set-Cookie\", x-note=\"a b\"" := by
    decide +kernel
  have h : canonicalize "Max-Age=60, No-Cache=Set-Cookie, x-note=\"a b\"" =
      .ok "max-age=60, no-cache=\"Set-Cookie\", x-note=\"a b\"" := by
    revert hs
    cases canonicalize "Max-Age=60, No-Cache=Set-Cookie, x-note=\"a b\"" <;> simp [Except.toOption]
  exact ⟨h, canonicalize_fixed.1 _ _ h⟩

end Policy

end HttpCaching
