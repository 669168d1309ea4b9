/-!
# 時間の長さ

ナノ秒を単位とする符号付き 64 ビットの長さ。秒との変換は 64 ビットで折り返し、
秒へ戻すときは 0 の方へ切り捨てる。`toText` は `1h2m3.5s` や `1.5ms` の形で書く。
-/
namespace HttpCaching

/-- 符号つきの時間の長さ。ナノ秒で、64 ビットの幅。 -/
structure Duration where
  ns : Int64
  deriving DecidableEq, Inhabited, Repr

namespace Duration

/-- 長さのない時間。 -/
def zero : Duration := ⟨0⟩

/-- 一秒のナノ秒。 -/
def nsPerSecond : Int64 := 1000000000

/-- 秒の整数を長さにしたもの。積は 64 ビットで折り返す。 -/
def ofSeconds (n : Int64) : Duration := ⟨n * nsPerSecond⟩

/-- 長さの秒の整数。端数は 0 の方へ切る。 -/
def seconds (d : Duration) : Int64 := d.ns / nsPerSecond

/-- ナノ秒で与えた二つの時刻の差 `a - b` を、64 ビットの範囲に収めたもの。 -/
def between (a b : Int) : Duration :=
  let diff := a - b
  if diff > 9223372036854775807 then ⟨Int64.ofInt 9223372036854775807⟩
  else if diff < -9223372036854775808 then ⟨Int64.ofInt (-9223372036854775808)⟩
  else ⟨Int64.ofInt diff⟩

/-- `v / 10^prec` の十進の端数を、末尾の 0 を除いた `.ddd` にしたもの (0 なら何もない) と、
整数の部分。 -/
def splitFraction (v prec : Nat) : List Char × Nat :=
  let frac := v % Nat.pow 10 prec
  let ds := Nat.toDigits 10 frac
  let padded := List.replicate (prec - ds.length) '0' ++ ds
  let trimmed := (padded.reverse.dropWhile (· == '0')).reverse
  ((if trimmed.isEmpty then [] else '.' :: trimmed), v / Nat.pow 10 prec)

/-- 正のナノ秒の数のテキスト: 一秒未満は `ns`、`µs`、`ms` に端数をつけ、それ以外は時・分・秒で、
先頭の 0 の単位は書かない。 -/
def magnitudeText (u : Nat) : List Char :=
  if u == 0 then ['0', 's']
  else if u < 1000000000 then
    let (prec, unit) :=
      if u < 1000 then (0, ['n', 's'])
      else if u < 1000000 then (3, ['µ', 's'])
      else (6, ['m', 's'])
    let (frac, whole) := splitFraction u prec
    Nat.toDigits 10 whole ++ frac ++ unit
  else
    let (frac, secs) := splitFraction u 9
    let s := Nat.toDigits 10 (secs % 60) ++ frac ++ ['s']
    let mins := secs / 60
    if mins == 0 then s
    else
      let m := Nat.toDigits 10 (mins % 60) ++ ['m'] ++ s
      let hours := mins / 60
      if hours == 0 then m else Nat.toDigits 10 hours ++ ['h'] ++ m

/-- 長さのテキスト。`1h0m0s`、`-1.5s`、`250ms`、`0s` など。 -/
def toText (d : Duration) : String :=
  let n := d.ns.toInt
  String.ofList ((if n < 0 then ['-'] else []) ++ magnitudeText n.natAbs)

end Duration

end HttpCaching
