import HttpCaching.Decimal.Shortest
/-!
# 十進数に最も近い倍精度の値

十進数 m · 10^e を、仮数 53 ビットの二進数 M · 2^q に丸める (最近接、等距離なら M が偶数の方)。
q は -1074 より小さくならず、その下限では仮数が 2^52 より小さい非正規数になる。
計算は分子と分母を `Nat` で持った厳密な割り算で行う。
値の全体 `Double` は有限の値・無限大・NaN からなり、同じ値かどうか (NaN はどれとも違い、
±0 は同じ) と大小の順 (NaN は最も小さい) を持つ。
-/
namespace HttpCaching.Decimal

/-- binary64 の値の最小の指数。非正規化数がここにある。 -/
def leastExponent : Int := -1074

/-- `q` が負なら `m · 2^(-q)`、そうでなければ `m`。 -/
def scaleUp (m : Nat) (q : Int) : Nat := m * Nat.pow 2 (-q).toNat

/-- `q` が正なら `m · 2^q`、そうでなければ `m`。 -/
def scaleDown (m : Nat) (q : Int) : Nat := m * Nat.pow 2 q.toNat

/-- `num / den` の指数 `q` での仮数。最も近いものに丸め、等距離なら偶数の方。 -/
def roundedAt (num den : Nat) (q : Int) : Nat :=
  let a := scaleUp num q
  let b := scaleDown den q
  let m := a / b
  let r := a % b
  if 2 * r > b || (2 * r == b && m % 2 == 1) then m + 1 else m

/-- 正の `num` と `den` について、`2^f ≤ num / den < 2^(f+1)` となる指数 `f`。 -/
def binaryMagnitude (num den : Nat) : Int :=
  let l : Int := (Nat.log2 num : Int) - Nat.log2 den
  if scaleUp num l ≥ scaleDown den l then l else l - 1

namespace Binary

/-- `num / den` に最も近い binary64 の値。与えた符号をつける。 -/
def ofRatio (negative : Bool) (num den : Nat) : Binary :=
  if num == 0 || den == 0 then ⟨negative, 0, leastExponent, false⟩
  else
    let q := max (binaryMagnitude num den - 52) leastExponent
    let m := roundedAt num den q
    -- 丸めで 2^53 に達したら一つ上の指数へ
    let (m, q) := if m == Nat.pow 2 53 then (Nat.pow 2 52, q + 1) else (m, q)
    ⟨negative, m, q, m == Nat.pow 2 52 && q > leastExponent⟩

/-- `m · 10^e` に最も近い binary64 の値。与えた符号をつける。 -/
def ofDecimal (negative : Bool) (m : Nat) (e : Int) : Binary :=
  ofRatio negative (m * Nat.pow 10 e.toNat) (Nat.pow 10 (-e).toNat)

/-- 値が 0 かどうか。符号はどちらでもよい。 -/
def isZero (v : Binary) : Bool := v.m == 0

/-- 二つの値の大きさを厳密に比べる。 -/
def compareMagnitude (a b : Binary) : Ordering :=
  let low := min a.q b.q
  compare (a.m * Nat.pow 2 (a.q - low).toNat) (b.m * Nat.pow 2 (b.q - low).toNat)

/-- 二つの値を数として比べる。二つの 0 は等しい。 -/
def compareTo (a b : Binary) : Ordering :=
  if a.isZero && b.isZero then .eq
  else match a.negative, b.negative with
    | false, false => compareMagnitude a b
    | true, true => compareMagnitude b a
    | true, false => .lt
    | false, true => .gt

end Binary

/-- binary64 の値: 有限、どちらかの符号の無限大、NaN。 -/
inductive Double where
  | finite (v : Binary)
  | infinity (negative : Bool)
  | nan

namespace Double

/-- 符号つき整数に最も近い値。 -/
def ofInt (i : Int) : Double := .finite (Binary.ofDecimal (i < 0) i.natAbs 0)

/-- 二つの値が数として等しいかどうか: NaN は何とも等しくなく、二つの 0 は等しい。 -/
def same : Double → Double → Bool
  | .finite a, .finite b => a.compareTo b == .eq
  | .infinity a, .infinity b => a == b
  | _, _ => false

/-- 数としての値の順。NaN はどれよりも下。 -/
def compareTo : Double → Double → Ordering
  | .nan, _ => .lt
  | _, .nan => .gt
  | .infinity a, .infinity b => if a == b then .eq else if a then .lt else .gt
  | .infinity a, .finite _ => if a then .lt else .gt
  | .finite _, .infinity b => if b then .gt else .lt
  | .finite a, .finite b => a.compareTo b

/-- 書式のもとでの値の最も短いテキスト。無限大は `+Inf` と `-Inf`。 -/
def render (l : Layout) : Double → String
  | .finite v => l.render v.negative v.shortest
  | .infinity negative => if negative then "-Inf" else "+Inf"
  | .nan => "NaN"

end Double

end HttpCaching.Decimal
