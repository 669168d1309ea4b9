import Mathlib
import HttpCaching.Proofs.Directive.Write
/-!
# delta-seconds の読み取り

delta-seconds を取るディレクティブの型付きの読み取りは、引数の数 `k` (数そのもの、または
数字だけのテキストを `readDeltaSeconds?` で読んだもの) が負でなければ `min k 2^31` 秒を、
そうでなければ「ない」を返す (`ReadsSeconds`)。秒をナノ秒にする 64 ビットの掛け算は、
2^31 秒までなら折り返さないので、読んだ長さはちょうど `min k 2^31 · 10^9` ナノ秒で、
0 から 2^31 秒の間にある。数字だけの表記 `n=s` を読めば、`s` がどれほど長くても
`min (s の値) 2^31` 秒。

`max-stale` の読み取りは負の数を退けない。引数が数でなければ (引数なし、`*`、数字だけでない
テキスト) どんな古さでもよく、数 `k` なら `min k 2^31 · 10^9` を 64 ビットで折り返した
ナノ秒になる (`ReadsStaleness`)。負の数は検査を経ずに作った集まりにしか入らないので、
フィールドの行から作った集まりでは、これも 0 から 2^31 秒の間にある。

主な主張は `delta_readings_bounded`。
-/
namespace HttpCaching

open HttpCaching.Field

/-! ## 秒とナノ秒 -/

namespace Duration

theorem ext_toInt {a b : Duration} (h : a.ns.toInt = b.ns.toInt) : a = b := by
  obtain ⟨a⟩ := a
  obtain ⟨b⟩ := b
  congr 1
  exact Int64.toInt_inj.mp h

theorem toInt_seconds {d : Duration} (h : 0 ≤ d.ns) :
    d.seconds.toInt = d.ns.toInt / 1000000000 := by
  rw [seconds, Int64.toInt_div_of_ne_right _ _ (by decide)]
  exact Int.tdiv_eq_ediv_of_nonneg (Int64.le_iff_toInt_le.mp h)

theorem toInt_ns_ofSeconds (k : Int64) :
    (ofSeconds k).ns.toInt = (k.toInt * 1000000000).bmod 18446744073709551616 := by
  have hs : nsPerSecond.toInt = 1000000000 := by decide
  rw [ofSeconds, Int64.toInt_mul, hs]

theorem toInt_ns_ofSeconds_of_le {k : Int64} (h0 : 0 ≤ k.toInt) (h1 : k.toInt ≤ 2147483648) :
    (ofSeconds k).ns.toInt = k.toInt * 1000000000 := by
  rw [toInt_ns_ofSeconds]
  exact Int.bmod_eq_of_le (by omega) (by omega)

end Duration

theorem Field.toInt_min_maxDeltaSeconds (k : Int64) :
    (min k maxDeltaSeconds).toInt = min k.toInt 2147483648 := by
  rw [show min k maxDeltaSeconds = if k ≤ maxDeltaSeconds then k else maxDeltaSeconds from rfl]
  have hm : maxDeltaSeconds.toInt = 2147483648 := by decide
  split
  · rename_i h
    have := Int64.le_iff_toInt_le.mp h
    omega
  · rename_i h
    have := Int64.lt_iff_toInt_lt.mp (Int64.not_le.mp h)
    omega

/-- 2^31 で抑えた秒数のナノ秒: 数が負でなければ折り返さない。 -/
theorem Field.toInt_ns_clamp {k : Int64} (h : 0 ≤ k.toInt) :
    (Duration.ofSeconds (min k maxDeltaSeconds)).ns.toInt =
      min k.toInt 2147483648 * 1000000000 := by
  have hm := toInt_min_maxDeltaSeconds k
  rw [Duration.toInt_ns_ofSeconds_of_le (by omega) (by omega), hm]

/-- 数字だけの表記を delta-seconds として読んだ数は、2^31 で抑えれば表記の値を 2^31 で
抑えたものと同じ: 64 ビットに収まらない値は 2^31 と読まれる。 -/
theorem Field.readDeltaSeconds?_of_isDigits {s : String} (h : isDigits s = true) :
    ∃ k, readDeltaSeconds? s = some k ∧
      min k.toInt 2147483648 = min (digitsValue s.toList : Int) 2147483648 := by
  unfold readDeltaSeconds?
  rw [if_pos h]
  dsimp only
  split
  · rename_i hle
    refine ⟨_, rfl, ?_⟩
    rw [Int64.toInt_ofNat_of_lt (by omega)]
  · rename_i hgt
    refine ⟨_, rfl, ?_⟩
    have hm : maxDeltaSeconds.toInt = 2147483648 := by decide
    rw [hm]
    omega

/-! ## delta-seconds の読み取り -/

namespace Directives

variable {d : Directives}

/-- delta-seconds の読みが引数に与えるもの: 数 `k ≥ 0` (整数か、ASCII の数字のトークン) は
`min k 2^31` 秒と読み、ナノ秒で正確。ほかは何もないと読む。 -/
def ReadsSeconds (a : Option Argument) (r : Option Duration) : Prop :=
  ∀ out, r = some out ↔ ∃ k, a.bind Argument.number? = some k ∧ 0 ≤ k.toInt ∧
    out.ns.toInt = min k.toInt 2147483648 * 1000000000

/-- 読んだ長さは 0 から 2^31 秒の間。 -/
theorem ReadsSeconds.bounds {a : Option Argument} {r : Option Duration} (h : ReadsSeconds a r)
    {out : Duration} (hr : r = some out) :
    0 ≤ out.ns.toInt ∧ out.ns.toInt ≤ 2147483648 * 1000000000 := by
  obtain ⟨k, -, hk, hout⟩ := (h out).mp hr
  omega

theorem readsSeconds_delta? (d : Directives) (n : String) :
    ReadsSeconds (d.entries.get? n) (d.delta? n) := by
  intro out
  unfold delta?
  cases hk : d.entries.get? n >>= Argument.number? with
  | none =>
    simp only [Option.bind_eq_bind] at hk
    simp [hk]
  | some k =>
    simp only [Option.bind_eq_bind] at hk
    simp only [hk, Option.some.injEq, exists_eq_left']
    split
    · rename_i hneg
      have := Int64.lt_iff_toInt_lt.mp hneg
      rw [Int64.toInt_zero] at this
      simp only [reduceCtorEq, false_iff, not_and]
      intro h
      omega
    · rename_i hneg
      have h0 : 0 ≤ k.toInt := by simpa using Int64.le_iff_toInt_le.mp (Int64.not_lt.mp hneg)
      simp only [Option.some.injEq, h0, true_and]
      constructor
      · rintro rfl
        exact toInt_ns_clamp h0
      · intro h
        exact Duration.ext_toInt (by rw [h, toInt_ns_clamp h0])

theorem perform_read {n : String} (hn : n ∈ d.role.typedReads) :
    d.perform (.read n) = ⟨d.readTyped n, d, false⟩ := by
  simp [perform, Call.available, hn]

theorem perform_read_delta {n : String} (hn : n ∈ d.role.typedReads)
    (hc : ArgumentClass.of n = .delta) :
    (d.perform (.read n)).reply = .duration (d.delta? n) := by
  rw [perform_read hn]
  simp [readTyped, hc]

end Directives

/-! ## 数字だけの表記を読む -/

theorem Role.token_of_mem_typedReads (r : Role) :
    ∀ n ∈ r.typedReads, isToken n = true ∧ Directive.normalizeName n = n := by
  cases r <;> decide +kernel

namespace Directives

open Directive

variable {d : Directives}

/-- 正規形のトークンの名前 `n` と数字だけの表記 `s` の `n=s` を読むと、数として読む種類では
`s` を delta-seconds として読んだ数になる。 -/
theorem read_assign_digits {n s : String} (ht : isToken n = true) (hn : normalizeName n = n)
    (hc : (ArgumentClass.of n).readsSeconds = true) {k : Int64} (hk : readDeltaSeconds? s = some k) :
    read [n ++ "=" ++ s] = [⟨n, .int k⟩] := by
  have hs : isToken s = true := isToken_of_readDeltaSeconds? hk
  have hf : ArgumentClass.of n ≠ .fields := by
    intro he
    rw [he] at hc
    cases hc
  have hrender : (Entries.empty.put ⟨n, .token s⟩).render = n ++ "=" ++ s := by
    simp [Entries.render, Directive.render, hf, tokenOrQuoted, hs]
  have h := Entries.read_render (e := Entries.empty.put ⟨n, .token s⟩) (Entries.Wf.empty.put _).nodup
    (fun x hx => by
      rw [Entries.toList_put_empty, List.mem_singleton] at hx
      rw [hx]
      exact rereadable_of_token ht hn fun _ h => by cases h)
    (fun x hx => by
      rw [Entries.toList_put_empty, List.mem_singleton] at hx
      rw [hx]
      exact (bare_of_isToken ht).start.1)
  rw [hrender] at h
  rw [h]
  simp [Directive.reread, Argument.reread, hc, hk]

theorem get?_ofList_single (role : Role) {n : String} (hn : normalizeName n = n) (hne : n ≠ "")
    (a : Argument) : (ofList role [⟨n, a⟩]).entries.get? n = some a := by
  simp [ofList, entriesOf, hn, hne, Entries.putAll, Entries.get?_put]

/-- delta-seconds を読む名前 `n` の表記 `n=s` を、`s` が数字だけならどれほど長くても、その値を
2^31 で抑えた秒数にちょうど読む。 -/
theorem readTyped_assign_digits (role : Role) {n : String} (hn : n ∈ role.typedReads)
    (hc : ArgumentClass.of n = .delta) {s : String} (hs : isDigits s = true) :
    ∃ out, ((ofList role (read [n ++ "=" ++ s])).perform (.read n)).reply =
        .duration (some out) ∧
      out.ns.toInt = min (digitsValue s.toList : Int) 2147483648 * 1000000000 := by
  obtain ⟨ht, hnorm⟩ := Role.token_of_mem_typedReads role n hn
  obtain ⟨k, hk, hmin⟩ := readDeltaSeconds?_of_isDigits hs
  have h0 : 0 ≤ k.toInt := by simpa using Int64.le_iff_toInt_le.mp (nonneg_of_readDeltaSeconds? hk)
  have hread : (ArgumentClass.of n).readsSeconds = true := by
    simp [ArgumentClass.readsSeconds, hc]
  rw [read_assign_digits ht hnorm hread hk]
  refine ⟨Duration.ofSeconds (min k maxDeltaSeconds), ?_, by rw [toInt_ns_clamp h0, hmin]⟩
  have hn' : n ∈ (ofList role [⟨n, .int k⟩]).role.typedReads := hn
  have hr := (readsSeconds_delta? (ofList role [⟨n, .int k⟩]) n
    (Duration.ofSeconds (min k maxDeltaSeconds))).mpr
  rw [get?_ofList_single role hnorm (ne_empty_of_isToken ht)] at hr
  rw [perform_read_delta hn' hc, hr ⟨k, rfl, h0, toInt_ns_clamp h0⟩]

/-! ## `max-stale` -/

theorem text_int_ne_star (k : Int64) : (Argument.int k).text ≠ "*" := by
  intro h
  have hl := congrArg String.toList h
  have hstar : "*".toList = ['*'] := rfl
  simp only [Argument.text, Argument.text?, Option.getD_some, toList_toString_int, hstar] at hl
  split at hl
  · rw [List.singleton_append] at hl
    exact absurd (List.cons.inj hl).1 (by decide)
  · -- 十進の数字に `*` はない
    rw [List.nil_append] at hl
    have hmem : '*' ∈ Nat.toDigits 10 k.toInt.natAbs := by
      rw [hl]
      exact List.mem_singleton_self _
    exact absurd (Nat.isDigit_of_mem_toDigits (by decide) (by decide) hmem) (by decide)

/-- `max-stale` の読み取り: 引数が数でなければどんな古さでもよく (引数なしと `*` も数でない)、
数ならその秒数を 2^31 で抑えたもの。負の数は退けない。 -/
theorem maxStale?_eq (d : Directives) : d.maxStale? = (d.entries.get? "max-stale").map fun a =>
    match a.number? with
    | none => .unbounded
    | some k => .atMost (Duration.ofSeconds (min k maxDeltaSeconds)) := by
  unfold maxStale?
  cases d.entries.get? "max-stale" with
  | none => rfl
  | some a =>
    cases a with
    | flag => rfl
    | int k => simp [text_int_ne_star k, Argument.number?]
    | token s =>
      by_cases hs : s = "*"
      · subst hs
        rfl
      · simp [Argument.text, Argument.text?, hs, Argument.number?]
        cases readDeltaSeconds? s <;> rfl

/-- 引数に対して `max-stale` が読むもの: なければなし、数でない引数 (裸のディレクティブ、`*`、
数字だけでないテキスト) にはどの古さでもよく、数 `k` には `min k 2^31` 秒の長さで、そのナノ秒は 64
ビットで一回りする。 -/
def ReadsStaleness (a : Option Argument) (s : Option Staleness) : Prop :=
  (s = none ↔ a = none) ∧ (s = some .unbounded ↔ ∃ b, a = some b ∧ b.number? = none) ∧
    ∀ out, s = some (.atMost out) ↔ ∃ k, a.bind Argument.number? = some k ∧
      out.ns.toInt = (min k.toInt 2147483648 * 1000000000).bmod 18446744073709551616

theorem readsStaleness_maxStale? (d : Directives) :
    ReadsStaleness (d.entries.get? "max-stale") d.maxStale? := by
  rw [maxStale?_eq]
  refine ⟨Option.map_eq_none_iff, ?_, fun out => ?_⟩
  · simp only [Option.map_eq_some_iff]
    refine exists_congr fun b => and_congr_right fun _ => ?_
    cases b.number? <;> simp
  · simp only [Option.map_eq_some_iff, Option.bind_eq_some_iff]
    constructor
    · rintro ⟨b, hb, hs⟩
      cases hk : b.number? with
      | none => simp [hk] at hs
      | some k =>
        simp only [hk, Staleness.atMost.injEq] at hs
        subst hs
        refine ⟨k, ⟨b, hb, hk⟩, ?_⟩
        rw [Duration.toInt_ns_ofSeconds, toInt_min_maxDeltaSeconds]
    · rintro ⟨k, ⟨b, hb, hk⟩, hout⟩
      refine ⟨b, hb, ?_⟩
      simp only [hk, Staleness.atMost.injEq]
      exact Duration.ext_toInt (by rw [Duration.toInt_ns_ofSeconds, toInt_min_maxDeltaSeconds, hout])

/-- 負でない数では、`max-stale` の読み取りも折り返さない。 -/
theorem bmod_clamp {k : Int64} (h : 0 ≤ k.toInt) :
    (min k.toInt 2147483648 * 1000000000).bmod 18446744073709551616 =
      min k.toInt 2147483648 * 1000000000 :=
  Int.bmod_eq_of_le (by omega) (by omega)

/-- フィールドの行から作って操作した集まりでは、数として読む種類の数は負でない。 -/
theorem Built.number_nonneg (hd : d.Built) {n : String}
    (hc : (ArgumentClass.of n).readsSeconds = true) {k : Int64}
    (hk : (d.entries.get? n).bind Argument.number? = some k) : 0 ≤ k.toInt := by
  obtain ⟨a, ha, hk⟩ := Option.bind_eq_some_iff.mp hk
  have hnonneg := (hd.rereadable.each ⟨n, a⟩ (hd.rereadable.wf.mem_toList.mpr ha)).nonneg
  have hk0 : 0 ≤ k := by
    cases a with
    | flag => simp [Argument.number?] at hk
    | int m =>
      simp only [Argument.number?, Option.some.injEq] at hk
      subst hk
      exact hnonneg m rfl hc
    | token s =>
      simp only [Argument.number?] at hk
      exact nonneg_of_readDeltaSeconds? hk
  simpa using Int64.le_iff_toInt_le.mp hk0

theorem perform_read_maxStale (hd : d.role = .request) :
    (d.perform (.read "max-stale")).reply = .staleness d.maxStale? := by
  have hn : "max-stale" ∈ d.role.typedReads := by
    rw [hd]
    decide
  rw [perform_read hn]
  rfl

/-! ## 主な主張 -/

/-- delta-seconds を取るディレクティブの型付きの読み取りは、どの集まりでも (検査していない組から
作ったものでも)、引数の数 `k` が負でなければちょうど `min k 2^31` 秒を、そうでなければ「ない」を
返し、読んだ長さは 0 から 2^31 秒の間にある。数字だけの表記 `n=s` を読んだ集まりでは、`s` が
どれほど長くても `min (s の値) 2^31` 秒。要求の `max-stale` は、引数が数でなければどんな古さでも
よく、数 `k` なら `min k 2^31` 秒のナノ秒を 64 ビットで折り返したもので、負の数を退けない。
フィールドの行から作って操作した集まりでは負の数はなく、`max-stale` の長さも折り返さずに
0 から 2^31 秒の間にある。 -/
theorem delta_readings_bounded (d : Directives) :
    (∀ n ∈ d.role.typedReads, ArgumentClass.of n = .delta →
      ∃ r, (d.perform (.read n)).reply = .duration r ∧ ReadsSeconds (d.entries.get? n) r ∧
        ∀ out, r = some out → 0 ≤ out.ns.toInt ∧ out.ns.toInt ≤ 2147483648 * 1000000000) ∧
    (∀ n ∈ d.role.typedReads, ArgumentClass.of n = .delta → ∀ s, isDigits s = true →
      ∃ out, ((ofList d.role (read [n ++ "=" ++ s])).perform (.read n)).reply =
          .duration (some out) ∧
        out.ns.toInt = min (digitsValue s.toList : Int) 2147483648 * 1000000000) ∧
    (d.role = .request →
      ∃ st, (d.perform (.read "max-stale")).reply = .staleness st ∧
        ReadsStaleness (d.entries.get? "max-stale") st) ∧
    (d.Built → d.role = .request → ∀ out,
      (d.perform (.read "max-stale")).reply = .staleness (some (.atMost out)) →
        ∃ k, (d.entries.get? "max-stale").bind Argument.number? = some k ∧
          out.ns.toInt = min k.toInt 2147483648 * 1000000000 ∧
          0 ≤ out.ns.toInt ∧ out.ns.toInt ≤ 2147483648 * 1000000000) := by
  refine ⟨fun n hn hc => ?_, fun n hn hc s hs => readTyped_assign_digits d.role hn hc hs,
    fun hd => ⟨_, perform_read_maxStale hd, readsStaleness_maxStale? d⟩,
    fun hb hd out hout => ?_⟩
  · have hr := readsSeconds_delta? d n
    exact ⟨_, perform_read_delta hn hc, hr, fun out h => hr.bounds h⟩
  · -- 作った集まりの数は負でないので、折り返しは起きない
    rw [perform_read_maxStale hd, Reply.staleness.injEq] at hout
    obtain ⟨k, hk, hns⟩ := ((readsStaleness_maxStale? d).2.2 out).mp hout
    have h0 := hb.number_nonneg (by decide) hk
    rw [bmod_clamp h0] at hns
    exact ⟨k, hk, hns, by omega, by omega⟩

/-- 20 桁の `max-stale` を読んだ要求の集まり: 値は 64 ビットに収まらないので 2^31 と読まれ、
読み取りは 2^31 秒ちょうどで折り返さない。負の数 -10^10 の組から作った要求の集まりでは、
`max-stale` の読み取りは負の数を退けず、ナノ秒への掛け算が 64 ビットで折り返して
8446744073709551616 ns になり、2^31 秒を超える。 -/
theorem max_stale_clamped_or_wrapped :
    let d := ofList .request (read ["max-stale=99999999999999999999"])
    let d' := ofList .request [⟨"max-stale", .int (-10000000000)⟩]
    "max-age" ∈ d.role.typedReads ∧ ArgumentClass.of "max-age" = .delta ∧
      isDigits "99999999999999999999" = true ∧ d.Built ∧ d.role = .request ∧
      (d.perform (.read "max-stale")).reply =
        .staleness (some (.atMost ⟨2147483648000000000⟩)) ∧
      (∃ r, (d.perform (.read "max-age")).reply = .duration r ∧
        ReadsSeconds (d.entries.get? "max-age") r ∧
        ∀ out, r = some out → 0 ≤ out.ns.toInt ∧ out.ns.toInt ≤ 2147483648 * 1000000000) ∧
      (∃ out, ((ofList .request (read ["max-age" ++ "=" ++ "99999999999999999999"])).perform
          (.read "max-age")).reply = .duration (some out) ∧
        out.ns.toInt = min (digitsValue "99999999999999999999".toList : Int) 2147483648 *
          1000000000) ∧
      (∃ st, (d.perform (.read "max-stale")).reply = .staleness st ∧
        ReadsStaleness (d.entries.get? "max-stale") st) ∧
      (∃ k, (d.entries.get? "max-stale").bind Argument.number? = some k ∧
        (⟨2147483648000000000⟩ : Duration).ns.toInt = min k.toInt 2147483648 * 1000000000 ∧
        0 ≤ (⟨2147483648000000000⟩ : Duration).ns.toInt ∧
        (⟨2147483648000000000⟩ : Duration).ns.toInt ≤ 2147483648 * 1000000000) ∧
      d'.role = .request ∧
      (d'.perform (.read "max-stale")).reply = .staleness (some (.atMost ⟨8446744073709551616⟩)) ∧
      (∃ st, (d'.perform (.read "max-stale")).reply = .staleness st ∧
        ReadsStaleness (d'.entries.get? "max-stale") st) ∧
      2147483648 * 1000000000 < (⟨8446744073709551616⟩ : Duration).ns.toInt := by
  intro d d'
  have hb : d.Built := .parsed _ _
  have hmax : "max-age" ∈ d.role.typedReads := by decide
  have hread : (d.perform (.read "max-stale")).reply =
      .staleness (some (.atMost ⟨2147483648000000000⟩)) := by
    rw [perform_read_maxStale rfl]
    congr 1
    decide +kernel
  -- 負の数の組: 読み取りは折り返した値
  have hwrap : (d'.perform (.read "max-stale")).reply =
      .staleness (some (.atMost ⟨8446744073709551616⟩)) := by
    rw [perform_read_maxStale rfl]
    congr 1
    decide +kernel
  obtain ⟨h1, h2, h3, h4⟩ := delta_readings_bounded d
  exact ⟨hmax, rfl, by decide, hb, rfl, hread, h1 "max-age" hmax rfl,
    h2 "max-age" hmax rfl _ (by decide), h3 rfl, h4 hb rfl _ hread, rfl, hwrap,
    (delta_readings_bounded d').2.2.1 rfl, by decide⟩

end Directives

end HttpCaching
