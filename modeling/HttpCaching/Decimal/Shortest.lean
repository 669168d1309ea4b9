/-!
# 浮動小数点数の最短の十進表記

倍精度の値を m · 2^q に分け、その値へ丸められる実数の区間 (m が偶数なら端を含む) を取る。
桁数 1, 2, … 17 の順に、その桁数の十進格子で値の両隣を調べ、区間に入る最初の桁数で決める。
二つとも入れば値に近い方、等距離なら偶数の方。計算はすべて `Nat` の厳密な演算で行う。
`Layout` は、どの指数まで位取りで書き、指数を何桁で書くかを決める。
-/
namespace HttpCaching.Decimal

/-- 有限の binary64 の値: 符号、整数の仮数 `m`、指数 `q` で、値は m · 2^q。`narrowBelow` は、
一つ小さい値が半単位しか離れていないこと (仮数が、最小の正規化指数より上で 2 の冪)。 -/
structure Binary where
  negative : Bool
  m : Nat
  q : Int
  narrowBelow : Bool

/-- 浮動小数点数を符号、仮数、指数に分ける。無限大と NaN は `none`。 -/
def Binary.ofFloat (x : Float) : Option Binary :=
  let b := x.toBits
  let neg := (b >>> 63) == 1
  let e := ((b >>> 52) &&& 0x7FF).toNat
  let f := (b &&& 0xFFFFFFFFFFFFF).toNat
  if e == 0x7FF then none
  else if e == 0 then some ⟨neg, f, -1074, false⟩
  else some ⟨neg, f + Nat.pow 2 52, (e : Int) - 1075, f == 0 && e > 1⟩

/-- `d · 10^k` と `n · 2^s` を厳密に比べる。 -/
def compareScaled (d : Nat) (k : Int) (n : Nat) (s : Int) : Ordering :=
  compare (d * Nat.pow 10 k.toNat * Nat.pow 2 (-s).toNat)
    (n * Nat.pow 2 s.toNat * Nat.pow 10 (-k).toNat)

/-- 正の数の十進の桁数。 -/
def digitCount (n : Nat) : Nat := (Nat.toDigits 10 n).length

/-- 十進数 `digits · 10^exp`。`digits` は 0 でなければ末尾に 0 を持たない。 -/
structure Scaled where
  digits : Nat
  exp : Int

/-- 末尾の 0 を除き、指数へ移す。 -/
def Scaled.stripZeros (d : Nat) (k : Int) : Nat → Scaled
  | 0 => ⟨d, k⟩
  | fuel + 1 => if d ≠ 0 && d % 10 == 0 then stripZeros (d / 10) (k + 1) fuel else ⟨d, k⟩

/-- 末尾の 0 を除く。十八桁以下の候補はどれも二十歩で足りる。 -/
def Scaled.normalize (d : Nat) (k : Int) : Scaled := Scaled.stripZeros d k 20

namespace Binary

/-- `d · 10^k` がこの値に丸まるかどうか。 -/
def accepts (v : Binary) (d : Nat) (k : Int) : Bool :=
  let s := v.q - 2
  let lo := 4 * v.m - (if v.narrowBelow then 1 else 2)
  let hi := 4 * v.m + 2
  let even := v.m % 2 == 0
  let aboveLo := match compareScaled d k lo s with
    | .gt => true
    | .eq => even
    | .lt => false
  let belowHi := match compareScaled d k hi s with
    | .lt => true
    | .eq => even
    | .gt => false
  aboveLo && belowHi

/-- 正の値について、10^E ≤ 値 < 10^(E+1) となる十進の指数 `E`。 -/
def magnitude (v : Binary) : Int :=
  let p : Nat := 340
  let w := v.m * Nat.pow 10 p * Nat.pow 2 v.q.toNat / Nat.pow 2 (-v.q).toNat
  (digitCount w : Int) - 1 - p

/-- 格子 `10^k` の上の、値の両隣。 -/
def neighbours (v : Binary) (k : Int) : Nat × Nat :=
  let c := v.m * Nat.pow 2 v.q.toNat * Nat.pow 10 (-k).toNat /
    (Nat.pow 2 (-v.q).toNat * Nat.pow 10 k.toNat)
  (c, c + 1)

/-- 一つの格子の上の二つの候補のうち、`d · 10^k` が値に近い方。 -/
def nearer (v : Binary) (k : Int) (a b : Nat) : Nat :=
  -- 4m · 2^(q-2) を格子の単位で比べるため、両方を同じ尺度に揃える
  let scaleV := 4 * v.m * Nat.pow 2 (v.q - 2).toNat * Nat.pow 10 (-k).toNat
  let scaleD := fun d => d * Nat.pow 10 k.toNat * Nat.pow 2 (-(v.q - 2)).toNat
  let dist := fun d => if scaleD d ≥ scaleV then scaleD d - scaleV else scaleV - scaleD d
  if dist a < dist b then a
  else if dist b < dist a then b
  else if a % 2 == 0 then a else b

/-- 正の値に丸まる最も短い十進数。1 桁から 17 桁まで探す。 -/
def shortestFrom (v : Binary) (e : Int) : Nat → Nat → Option Scaled
  | 0, _ => none
  | fuel + 1, n =>
    let k := e - n + 1
    let (a, b) := v.neighbours k
    match v.accepts a k, v.accepts b k with
    | true, true => some (Scaled.normalize (v.nearer k a b) k)
    | true, false => some (Scaled.normalize a k)
    | false, true => some (Scaled.normalize b k)
    | false, false => shortestFrom v e fuel (n + 1)

/-- この値に読み戻る最も短い十進数。0 は `0 · 10^0`。 -/
def shortest (v : Binary) : Scaled :=
  if v.m == 0 then ⟨0, 0⟩
  else (v.shortestFrom v.magnitude 17 1).getD ⟨v.m, 0⟩

end Binary

/-- どこで位取りを使い、指数をどう書くか: 十進の指数が `lowest` から `highest` までなら位取り、
それ以外は一桁、点、残り、`e`、符号、少なくとも `expDigits` 桁の指数。 -/
structure Layout where
  lowest : Int
  highest : Int
  expDigits : Nat

/-- 十進数を書式のとおりに書く。`negative` なら負号をつける。 -/
def Layout.render (l : Layout) (negative : Bool) (d : Scaled) : String :=
  let ds := Nat.toDigits 10 d.digits
  let nd := ds.length
  -- 小数点の位置: 値は 0.d₁d₂… × 10^dp
  let dp : Int := nd + d.exp
  let x := dp - 1
  let body :=
    if d.digits == 0 then ['0']
    else if x < l.lowest || x > l.highest then
      let mant := match ds with
        | [] => []
        | c :: r => if r.isEmpty then [c] else c :: '.' :: r
      let ex := Nat.toDigits 10 x.natAbs
      let exPadded := List.replicate (l.expDigits - ex.length) '0' ++ ex
      mant ++ ['e', if x < 0 then '-' else '+'] ++ exPadded
    else if dp ≤ 0 then '0' :: '.' :: (List.replicate (-dp).toNat '0' ++ ds)
    else if dp.toNat ≥ nd then ds ++ List.replicate (dp.toNat - nd) '0'
    else ds.take dp.toNat ++ '.' :: ds.drop dp.toNat
  String.ofList ((if negative then ['-'] else []) ++ body)

/-- 書式のもとでの浮動小数点数の最も短いテキスト。無限大と NaN は `+Inf`、`-Inf`、`NaN`。 -/
def Layout.renderFloat (l : Layout) (x : Float) : String :=
  match Binary.ofFloat x with
  | some v => l.render v.negative v.shortest
  | none => if x.isNaN then "NaN" else if x > 0 then "+Inf" else "-Inf"

end HttpCaching.Decimal
