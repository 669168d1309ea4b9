import Mathlib
import HttpCaching.Proofs.Directive.Seconds
/-!
# 型付きの書き込みを読み戻す

型付きの書き込みのあとで同じディレクティブを型付きで読むと、書き込みの決まった変換のとおりに
読める。どんな状態の集まりでもよく、前に読んだ値が壊れていてもよい。存在だけのものは書いた
真偽を、フィールド一覧は名前を `", "` でつないだテキスト (名前がなければ空のテキスト) を、
delta-seconds は時間の秒を切り捨てて 2^31 秒で抑えた長さを読む。負の時間とトークンでない
フィールド名は、集まりを変えずに退けられる。型付きの削除と、値なしや偽の汎用の書き込みの
あとは、ないと読む。

ほかのディレクティブは引数も順序もそのまま (`Entries.StoresAt`): 書いたディレクティブは
あった位置に残り、なかったときは末尾に付く。表の二つの部分が合っていない集まりでも同じことが
言える: 書き込みは写像にある名前かどうかで並びに足すかを決める。

主な主張は `typed_write_read_back`。
-/
namespace HttpCaching

open HttpCaching.Field

/-! ## 表の一つの名前 -/

namespace Entries

theorem get?_put_self (e : Entries) (n : String) (a : Argument) : (e.put ⟨n, a⟩).get? n = some a := by
  rw [get?_put, if_pos rfl]

theorem get?_erase_self (e : Entries) (n : String) : (e.erase n).get? n = none := by
  rw [get?_erase, if_pos rfl]

/-- 表 `e` に名前 `n` のディレクティブを入れた表 `e'`: 名前の並びは `e` のままで、`n` がなかった
ときだけ末尾に付き、ほかのディレクティブの引数は変わらない。 -/
structure StoresAt (n : String) (e e' : Entries) : Prop where
  names : e'.names = if e.contains n then e.names else e.names ++ [n]
  others : ∀ m ≠ n, e'.get? m = e.get? m

theorem storesAt_put (e : Entries) (n : String) (a : Argument) : StoresAt n e (e.put ⟨n, a⟩) :=
  ⟨names_put e _, fun m hm => by rw [get?_put, if_neg hm]⟩

end Entries

/-! ## 型付きの読み取り -/

/-- 型付きの書き込みがある名前は、存在だけのもの、フィールド一覧、delta-seconds のどれか。 -/
theorem Role.class_of_mem_typedWrites (r : Role) :
    ∀ n ∈ r.typedWrites, ArgumentClass.of n = .flag ∨ ArgumentClass.of n = .fields ∨
      ArgumentClass.of n = .delta := by
  cases r <;> decide +kernel

theorem Role.mem_typedReads_of_typedWrites {r : Role} {n : String} (h : n ∈ r.typedWrites) :
    n ∈ r.typedReads := by
  cases r with
  | request => simp [Role.typedWrites] at h
  | response | plain => exact h

namespace Directives

variable {d : Directives} {n : String}

@[simp] theorem entries_changed (e : Entries) : (d.changed e).entries = e := rfl

/-- 型付きの読み取りが、そのディレクティブがないときに答えるもの: 存在だけのものは偽と読み、
フィールド一覧と delta-seconds はないと読む。 -/
def absentReading (n : String) : Reply :=
  match ArgumentClass.of n with
  | .flag => .flag false
  | .fields => .fields none
  | .delta => .duration none
  | .stale => .staleness none
  | .any => .unavailable

theorem readTyped_flag (hc : ArgumentClass.of n = .flag) :
    d.readTyped n = .flag (d.entries.get? n).isSome := by
  simp [readTyped, hc, flag, Entries.contains_eq_isSome]

theorem readTyped_fields (hc : ArgumentClass.of n = .fields) :
    d.readTyped n = .fields ((d.entries.get? n).map Argument.text) := by
  simp [readTyped, hc, fields?]

theorem readTyped_delta (hc : ArgumentClass.of n = .delta) :
    d.readTyped n = .duration (d.delta? n) := by
  simp [readTyped, hc]

theorem readTyped_of_absent (hn : n ∈ d.role.typedWrites) (h : d.entries.get? n = none) :
    d.readTyped n = absentReading n := by
  rcases Role.class_of_mem_typedWrites d.role n hn with hc | hc | hc
  · rw [readTyped_flag hc, h]
    simp [absentReading, hc]
  · rw [readTyped_fields hc, h]
    simp [absentReading, hc]
  · rw [readTyped_delta hc]
    have hr := readsSeconds_delta? d n
    rw [h] at hr
    cases hd : d.delta? n with
    | none => simp [absentReading, hc]
    | some out =>
      obtain ⟨k, hk, -⟩ := (hr out).mp hd
      cases hk

theorem perform_read_changed (hn : n ∈ d.role.typedWrites) (e : Entries) :
    ((d.changed e).perform (.read n)).reply = (d.changed e).readTyped n := by
  have hn' : n ∈ (d.changed e).role.typedReads := Role.mem_typedReads_of_typedWrites hn
  rw [perform_read hn']

/-! ## 書いて読む -/

/-- 存在だけのものへの型付きの書き込みは、書いた真偽に読める。真なら位置を保って入れ、偽なら
除く。 -/
theorem setFlag_read (hn : n ∈ d.role.typedWrites) (hc : ArgumentClass.of n = .flag) (b : Bool) :
    (d.perform (.setFlag n b)).reply = .done ∧
      ((d.perform (.setFlag n b)).after.perform (.read n)).reply = .flag b ∧
      (if b then Entries.StoresAt n d.entries (d.perform (.setFlag n b)).after.entries
        else (d.perform (.setFlag n b)).after.entries = d.entries.erase n) := by
  rw [perform_setFlag hn]
  refine ⟨rfl, ?_⟩
  dsimp only
  rw [setFlag, perform_read_changed hn, readTyped_flag hc]
  cases b with
  | true =>
    show Reply.flag ((d.entries.put ⟨n, .flag⟩).get? n).isSome = .flag true ∧
      Entries.StoresAt n d.entries (d.entries.put ⟨n, .flag⟩)
    rw [Entries.get?_put_self]
    exact ⟨rfl, Entries.storesAt_put _ _ _⟩
  | false =>
    show Reply.flag ((d.entries.erase n).get? n).isSome = .flag false ∧
      d.entries.erase n = d.entries.erase n
    rw [Entries.get?_erase_self]
    exact ⟨rfl, rfl⟩

/-- フィールド一覧への型付きの書き込みは、名前がどれもトークンなら成功し、名前を `", "` で
つないだテキストに読める (名前がなければ空のテキスト)。トークンでない名前があれば、集まりを
変えずに退けられる。 -/
theorem setFields_read (hn : n ∈ d.role.typedWrites) (hc : ArgumentClass.of n = .fields)
    (fs : List String) :
    (fs.all isToken = true →
      (d.perform (.setFields n fs)).reply = .done ∧
      ((d.perform (.setFields n fs)).after.perform (.read n)).reply =
        .fields (some (", ".intercalate fs)) ∧
      Entries.StoresAt n d.entries (d.perform (.setFields n fs)).after.entries) ∧
    (fs.all isToken = false →
      d.perform (.setFields n fs) = ⟨.failed (.rejected n (.texts fs)), d, false⟩) := by
  rw [perform_setFields hn]
  refine ⟨fun hall => ?_, fun hall => ?_⟩
  · -- 名前がなければ引数なしを、あればつないだテキストを入れる
    have hset : ∃ a, d.setFields n fs = .ok (d.changed (d.entries.put ⟨n, a⟩)) ∧
        a.text = ", ".intercalate fs := by
      by_cases he : fs.isEmpty = true
      · rw [List.isEmpty_iff.mp he]
        exact ⟨.flag, rfl, rfl⟩
      · exact ⟨.token (", ".intercalate fs), by simp [setFields, he, hall], rfl⟩
    obtain ⟨a, hs, ht⟩ := hset
    rw [hs, written_ok]
    dsimp only
    rw [perform_read_changed hn, readTyped_fields hc, entries_changed, Entries.get?_put_self]
    exact ⟨rfl, by rw [Option.map_some, ht], Entries.storesAt_put _ _ _⟩
  · have he : fs.isEmpty = false := by
      cases fs with
      | nil => simp at hall
      | cons f fs => rfl
    simp [setFields, he, hall]

/-- delta-seconds への型付きの書き込みは、負でない時間なら成功し、秒を切り捨てて 2^31 秒で
抑えた長さにちょうど読める。負の時間は、集まりを変えずに退けられる。 -/
theorem setDelta_read (hn : n ∈ d.role.typedWrites) (hc : ArgumentClass.of n = .delta)
    (age : Duration) :
    (0 ≤ age.ns →
      (d.perform (.setDelta n age)).reply = .done ∧
      (∃ out, ((d.perform (.setDelta n age)).after.perform (.read n)).reply =
          .duration (some out) ∧
        out.ns.toInt = min (age.ns.toInt / 1000000000) 2147483648 * 1000000000) ∧
      Entries.StoresAt n d.entries (d.perform (.setDelta n age)).after.entries) ∧
    (age.ns < 0 →
      d.perform (.setDelta n age) = ⟨.failed (.rejected n (.duration age)), d, false⟩) := by
  rw [perform_setDelta hn]
  refine ⟨fun hage => ?_, fun hage => by simp [setDelta, hage]⟩
  have hs : d.setDelta n age = .ok (d.changed (d.entries.put ⟨n, .int age.seconds⟩)) := by
    simp [setDelta, Int64.not_lt.mpr hage]
  rw [hs, written_ok, perform_read_changed hn, readTyped_delta hc]
  -- 入れた秒数は負でないので、読み取りは 2^31 秒で抑えた長さ
  have hsec : age.seconds.toInt = age.ns.toInt / 1000000000 := Duration.toInt_seconds hage
  have h0 : 0 ≤ age.seconds.toInt := by
    simpa using Int64.le_iff_toInt_le.mp (seconds_nonneg hage)
  have hr := readsSeconds_delta? (d.changed (d.entries.put ⟨n, .int age.seconds⟩)) n
  refine ⟨rfl, ⟨Duration.ofSeconds (min age.seconds maxDeltaSeconds), ?_, ?_⟩,
    Entries.storesAt_put _ _ _⟩
  · congr 1
    refine (hr _).mpr ⟨age.seconds, ?_, h0, toInt_ns_clamp h0⟩
    simp [changed, Entries.get?_put_self, Argument.number?]
  · rw [toInt_ns_clamp h0, hsec]

theorem set_bool_false_eq_remove (hn : n ∈ d.role.typedWrites) :
    d.set n (.bool false) = .ok (d.remove n) := by
  rw [set_of_typed hn]
  rfl

/-- 型付きの削除と、値なしや偽の汎用の書き込みは、その名前だけを除き、あとはないと読む。 -/
theorem remove_read (hn : n ∈ d.role.typedWrites) :
    ∀ c ∈ [Call.remove n, .set n .none, .set n (.bool false)],
      (d.perform c).reply = .done ∧
      ((d.perform c).after.perform (.read n)).reply = absentReading n ∧
      (d.perform c).after.entries = d.entries.erase n := by
  -- 三つとも同じ一歩になる
  have hc : ∀ c ∈ [Call.remove n, .set n .none, .set n (.bool false)],
      d.perform c = ⟨.done, d.remove n, true⟩ := by
    intro c hc
    simp only [List.mem_cons, List.not_mem_nil, or_false] at hc
    rcases hc with rfl | rfl | rfl
    · exact perform_remove hn
    · rw [perform_set, set_none_eq_remove hn, written_ok]
    · rw [perform_set, set_bool_false_eq_remove hn, written_ok]
  intro c hmem
  rw [hc c hmem]
  refine ⟨rfl, ?_, rfl⟩
  rw [remove, perform_read_changed hn]
  exact readTyped_of_absent hn (Entries.get?_erase_self _ _)

/-! ## 主な主張 -/

/-- どんな状態の集まりでも、型付きの書き込みのあとで同じディレクティブを型付きで読むと、
書き込みの変換のとおりに読める。存在だけのものは書いた真偽に、フィールド一覧は名前を `", "` で
つないだテキスト (名前がなければ空のテキスト) に、delta-seconds は負でない時間の秒を切り捨てて
2^31 秒で抑えた長さに読める。負の時間とトークンでないフィールド名は、集まりを変えずに退けられる。
型付きの削除と、値なしや偽の汎用の書き込みのあとは、ないと読む。どの書き込みでも、ほかの
ディレクティブは引数も順序もそのままで、入れたディレクティブはあった位置に残るか末尾に付く。 -/
theorem typed_write_read_back (d : Directives) :
    (∀ n ∈ d.role.typedWrites, ArgumentClass.of n = .flag → ∀ b,
      (d.perform (.setFlag n b)).reply = .done ∧
      ((d.perform (.setFlag n b)).after.perform (.read n)).reply = .flag b ∧
      (if b then Entries.StoresAt n d.entries (d.perform (.setFlag n b)).after.entries
        else (d.perform (.setFlag n b)).after.entries = d.entries.erase n)) ∧
    (∀ n ∈ d.role.typedWrites, ArgumentClass.of n = .fields → ∀ fs,
      (fs.all isToken = true →
        (d.perform (.setFields n fs)).reply = .done ∧
        ((d.perform (.setFields n fs)).after.perform (.read n)).reply =
          .fields (some (", ".intercalate fs)) ∧
        Entries.StoresAt n d.entries (d.perform (.setFields n fs)).after.entries) ∧
      (fs.all isToken = false →
        d.perform (.setFields n fs) = ⟨.failed (.rejected n (.texts fs)), d, false⟩)) ∧
    (∀ n ∈ d.role.typedWrites, ArgumentClass.of n = .delta → ∀ age,
      (0 ≤ age.ns →
        (d.perform (.setDelta n age)).reply = .done ∧
        (∃ out, ((d.perform (.setDelta n age)).after.perform (.read n)).reply =
            .duration (some out) ∧
          out.ns.toInt = min (age.ns.toInt / 1000000000) 2147483648 * 1000000000) ∧
        Entries.StoresAt n d.entries (d.perform (.setDelta n age)).after.entries) ∧
      (age.ns < 0 →
        d.perform (.setDelta n age) = ⟨.failed (.rejected n (.duration age)), d, false⟩)) ∧
    (∀ n ∈ d.role.typedWrites, ∀ c ∈ [Call.remove n, .set n .none, .set n (.bool false)],
      (d.perform c).reply = .done ∧
      ((d.perform c).after.perform (.read n)).reply = absentReading n ∧
      (d.perform c).after.entries = d.entries.erase n) :=
  ⟨fun _ hn hc b => setFlag_read hn hc b, fun _ hn hc fs => setFields_read hn hc fs,
    fun _ hn hc age => setDelta_read hn hc age, fun _ hn => remove_read hn⟩

/-- 読めない `s-maxage` を持つ応答の集まりに、64 ビットで最大の時間を型付きで書くと、秒を
切り捨てて 2^31 秒で抑えた長さに読める。`public` を偽にすると偽と読み、`private` に二つの
フィールド名を書くとつないだテキストに読み、偽の汎用の書き込みのあと `max-age` はないと読む。 -/
theorem set_s_maxage_after_unreadable :
    let d := ofList .response (read ["s-maxage=soon, public, max-age=5"])
    let age : Duration := ⟨9223372036854775807⟩
    "public" ∈ d.role.typedWrites ∧ ArgumentClass.of "public" = .flag ∧
      "private" ∈ d.role.typedWrites ∧ ArgumentClass.of "private" = .fields ∧
      ["Set-Cookie", "X-Foo"].all isToken = true ∧
      "s-maxage" ∈ d.role.typedWrites ∧ ArgumentClass.of "s-maxage" = .delta ∧ 0 ≤ age.ns ∧
      "max-age" ∈ d.role.typedWrites ∧
      ((d.perform (.setFlag "public" false)).reply = .done ∧
        ((d.perform (.setFlag "public" false)).after.perform (.read "public")).reply = .flag false ∧
        (if false then Entries.StoresAt "public" d.entries
            (d.perform (.setFlag "public" false)).after.entries
          else (d.perform (.setFlag "public" false)).after.entries = d.entries.erase "public")) ∧
      ((d.perform (.setFields "private" ["Set-Cookie", "X-Foo"])).reply = .done ∧
        ((d.perform (.setFields "private" ["Set-Cookie", "X-Foo"])).after.perform
          (.read "private")).reply = .fields (some (", ".intercalate ["Set-Cookie", "X-Foo"])) ∧
        Entries.StoresAt "private" d.entries
          (d.perform (.setFields "private" ["Set-Cookie", "X-Foo"])).after.entries) ∧
      ((d.perform (.setDelta "s-maxage" age)).reply = .done ∧
        (∃ out, ((d.perform (.setDelta "s-maxage" age)).after.perform (.read "s-maxage")).reply =
            .duration (some out) ∧
          out.ns.toInt = min (age.ns.toInt / 1000000000) 2147483648 * 1000000000) ∧
        Entries.StoresAt "s-maxage" d.entries (d.perform (.setDelta "s-maxage" age)).after.entries) ∧
      ((d.perform (.set "max-age" (.bool false))).reply = .done ∧
        ((d.perform (.set "max-age" (.bool false))).after.perform (.read "max-age")).reply =
          absentReading "max-age" ∧
        (d.perform (.set "max-age" (.bool false))).after.entries = d.entries.erase "max-age") := by
  intro d age
  have hpublic : "public" ∈ d.role.typedWrites := by decide
  have hprivate : "private" ∈ d.role.typedWrites := by decide
  have hs : "s-maxage" ∈ d.role.typedWrites := by decide
  have hmax : "max-age" ∈ d.role.typedWrites := by decide
  have htokens : ["Set-Cookie", "X-Foo"].all isToken = true := by decide
  obtain ⟨hflag, hfields, hdelta, hremove⟩ := typed_write_read_back d
  exact ⟨hpublic, rfl, hprivate, rfl, htokens, hs, rfl, by decide, hmax,
    hflag _ hpublic rfl false, (hfields _ hprivate rfl _).1 htokens,
    (hdelta _ hs rfl age).1 (by decide),
    hremove _ hmax _ (List.mem_cons_of_mem _ (List.mem_cons_of_mem _ List.mem_cons_self))⟩

end Directives

end HttpCaching
