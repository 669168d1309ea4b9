import HttpCaching.Freshness
import HttpCaching.Proofs.Directive.Seconds
/-!
# 鮮度の寿命: 最初に当たる規則

RFC 9111 §4.2.1 の規則を上から順に試し、最初に当たったものを使う。共有キャッシュで s-maxage が
読めればその長さ、次に max-age が読めればその長さ (どちらも min(k, 2^31) 秒、
`Directives.ReadsSeconds`)、次に Expires が空でなければ Expires から Date を引いた長さ、
それもなければ 0。読めない s-maxage や max-age (数でない・負) は次の規則へ落ちる。
Expires が日付として読めなければ 1970 年の始まり、Date が読めなければ受け取った時刻を使う。
引き算は 64 ビットの範囲で飽和し、正でなければ 0。

主な主張は `Freshness.lifetime_first_match`: 寿命は負にならず、どの応答でも上の規則のとおり。
-/
namespace HttpCaching

namespace Duration

theorem toInt_ofInt_of_le {i : Int} (h1 : -9223372036854775808 ≤ i) (h2 : i ≤ 9223372036854775807) :
    (Int64.ofInt i).toInt = i := by
  have hb : (Int64.ofInt i).toInt = i.bmod 18446744073709551616 := Int64.toInt_ofInt
  rw [hb]
  exact Int.bmod_eq_of_le (by omega) (by omega)

theorem toInt_between (a b : Int) :
    (between a b).ns.toInt = max (-9223372036854775808) (min (a - b) 9223372036854775807) := by
  simp only [between]
  by_cases h1 : a - b > 9223372036854775807
  · rw [if_pos h1, toInt_ofInt_of_le (by omega) (by omega)]
    omega
  · by_cases h2 : a - b < -9223372036854775808
    · rw [if_neg h1, if_pos h2, toInt_ofInt_of_le (by omega) (by omega)]
      omega
    · rw [if_neg h1, if_neg h2, toInt_ofInt_of_le (by omega) (by omega)]
      omega

end Duration

namespace Freshness

open Http Storage

variable {h : Header} {shared : Bool} {now : Int} {d : Duration}

/-- Expires の値が表す瞬間: 読めないものは 1970 年の初め。 -/
abbrev expiresAt (h : Header) : Int := (Time.parseHttpDate (h.get "Expires")).getD 0

/-- 応答が生成された瞬間: その Date、または受け取ったとき。 -/
abbrev dateAt (h : Header) (now : Int) : Int := (Time.parseHttpDate (h.get "Date")).getD now

/-! ## 規則ごと -/

theorem lifetimeOf_sMaxAge (hs : shared = true) (hd : (responseDirectives h).sMaxAge? = some d) :
    lifetimeOf h shared now = d := by
  simp [lifetimeOf, hs, hd]

theorem lifetimeOf_maxAge (hs : shared = false ∨ (responseDirectives h).sMaxAge? = none)
    (hd : (responseDirectives h).maxAge? = some d) : lifetimeOf h shared now = d := by
  rcases hs with hs | hs <;> simp [lifetimeOf, hs, hd]

/-- どちらの数も当たらなければ、Expires から Date を引いた長さを 0 以上に収めたもの。Expires が
空なら 0。 -/
theorem lifetimeOf_expires (hs : shared = false ∨ (responseDirectives h).sMaxAge? = none)
    (hm : (responseDirectives h).maxAge? = none) :
    (lifetimeOf h shared now).ns.toInt =
      if h.get "Expires" = "" then 0
      else min (max 0 (expiresAt h - dateAt h now)) 9223372036854775807 := by
  have hnone : (if shared then (responseDirectives h).sMaxAge? else none) = none := by
    rcases hs with hs | hs <;> simp [hs]
  have hb := Duration.toInt_between (expiresAt h) (dateAt h now)
  simp only [lifetimeOf, hnone, hm, String.isEmpty_iff]
  by_cases he : h.get "Expires" = ""
  · simp [he, Duration.zero]
  · rw [if_neg he, if_neg he]
    -- 差の長さは 64 ビットに収めたもの。正でなければ 0 に替わる
    generalize Duration.between (expiresAt h) (dateAt h now) = life at hb ⊢
    by_cases hpos : (0 : Int64) < life.ns
    · rw [if_pos hpos]
      rw [Int64.lt_iff_toInt_lt, Int64.toInt_zero] at hpos
      omega
    · rw [if_neg hpos]
      rw [Int64.lt_iff_toInt_lt, Int64.toInt_zero] at hpos
      show (0 : Int64).toInt = _
      rw [Int64.toInt_zero]
      omega

theorem lifetimeOf_nonneg (h : Header) (shared : Bool) (now : Int) :
    0 ≤ (lifetimeOf h shared now).ns.toInt := by
  have hsm := Directives.readsSeconds_delta? (responseDirectives h) "s-maxage"
  have hma := Directives.readsSeconds_delta? (responseDirectives h) "max-age"
  by_cases hs : shared = true ∧ ((responseDirectives h).sMaxAge?).isSome
  · obtain ⟨hs, hd⟩ := hs
    obtain ⟨d, hd⟩ := Option.isSome_iff_exists.mp hd
    rw [lifetimeOf_sMaxAge hs hd]
    exact (hsm.bounds hd).1
  · have hs' : shared = false ∨ (responseDirectives h).sMaxAge? = none := by
      cases shared <;> simp_all
    cases hd : (responseDirectives h).maxAge? with
    | some d =>
      rw [lifetimeOf_maxAge hs' hd]
      exact (hma.bounds hd).1
    | none =>
      rw [lifetimeOf_expires hs' hd]
      split_ifs <;> omega

/-- 寿命は負にならず、規則を上から順に試して最初に当たったもの: 共有キャッシュで読める
s-maxage、次に読める max-age (どちらも min(k, 2^31) 秒)、次に空でない Expires から Date を
引いた長さを 0 以上に収めたもの、それもなければ 0。ヘッダーのない応答は 0。 -/
theorem lifetime_first_match (r : Response) (shared : Bool) (now : Int) :
    0 ≤ (lifetime r shared now).ns.toInt ∧
    (r.header = none → lifetime r shared now = Duration.zero) ∧
    ∀ h, r.header = some h →
      Directives.ReadsSeconds ((responseDirectives h).entries.get? "s-maxage")
        (responseDirectives h).sMaxAge? ∧
      Directives.ReadsSeconds ((responseDirectives h).entries.get? "max-age")
        (responseDirectives h).maxAge? ∧
      (∀ d, shared = true → (responseDirectives h).sMaxAge? = some d → lifetime r shared now = d) ∧
      (∀ d, (shared = false ∨ (responseDirectives h).sMaxAge? = none) →
        (responseDirectives h).maxAge? = some d → lifetime r shared now = d) ∧
      ((shared = false ∨ (responseDirectives h).sMaxAge? = none) →
        (responseDirectives h).maxAge? = none →
        (lifetime r shared now).ns.toInt =
          if h.get "Expires" = "" then 0
          else min (max 0 (expiresAt h - dateAt h now)) 9223372036854775807) := by
  refine ⟨?nonneg, fun hh => by simp [lifetime, hh], fun h hh => ?rules⟩
  case nonneg =>
    cases hh : r.header with
    | none => simp [lifetime, hh, Duration.zero]
    | some h => simpa [lifetime, hh] using lifetimeOf_nonneg h shared now
  case rules =>
    simp only [lifetime, hh]
    exact ⟨Directives.readsSeconds_delta? _ _, Directives.readsSeconds_delta? _ _,
      fun _ => lifetimeOf_sMaxAge, fun _ => lifetimeOf_maxAge, lifetimeOf_expires⟩

/-- Date の一時間後の Expires: 寿命は一時間。 -/
example : (lifetimeOf (Header.ofPairs [("Date", "Thu, 18 Aug 2050 02:01:18 GMT"),
    ("Expires", "Thu, 18 Aug 2050 03:01:18 GMT")]) true 0).ns.toInt = 3600000000000 := by
  decide +kernel

end Freshness

end HttpCaching
