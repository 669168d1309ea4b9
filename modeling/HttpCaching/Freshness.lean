import HttpCaching.Storage
import HttpCaching.Time.HttpDate
/-!
# 鮮度の寿命 (RFC 9111 §4.2.1)

共有キャッシュでは s-maxage、次に max-age、次に Expires と Date の差。Expires が読めなければ
1970 年の始まりとし、Date が読めなければ受け取った時刻を使う。差は 64 ビットの範囲に
収め、正でなければ 0。どれもなければ 0。
-/
namespace HttpCaching.Freshness

open Http

/-- このヘッダーを持つ応答を `now` (紀元からのナノ秒。ヘッダーに正しい Date がないときだけ使う)
に受け取ったときの、新しさの寿命。 -/
def lifetimeOf (h : Header) (shared : Bool) (now : Int) : Duration :=
  let res := Storage.responseDirectives h
  match (if shared then res.sMaxAge? else none), res.maxAge? with
  | some d, _ => d
  | none, some d => d
  | none, none =>
    let expires := h.get "Expires"
    if expires.isEmpty then Duration.zero
    else
      let e := (Time.parseHttpDate expires).getD 0
      let date := (Time.parseHttpDate (h.get "Date")).getD now
      let life := Duration.between e date
      if life.ns > 0 then life else Duration.zero

/-- 新しさの寿命。ヘッダーのない応答にはない。 -/
def lifetime (r : Response) (shared : Bool) (now : Int) : Duration :=
  match r.header with
  | some h => lifetimeOf h shared now
  | none => Duration.zero

end HttpCaching.Freshness
