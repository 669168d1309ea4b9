/-!
# テキストに書かれた数

データベースがテキストを数として読む決まり。

* `readNumber` は前後の空白・符号・整数部・小数部・指数を読む。有効数字は 64 ビットに
  収まる分 (`keepLimit` に達するまで) だけ取り、残りの桁は小数点を動かすだけになる。
  指数は 10000 で頭打ちになる。`NumberText.code` は読み方の種類で、1 は全体が整数、
  2 以上は全体が小数点か指数を持つ数、-1 は小数点か指数を持つ数の後に余りがあるもの、
  0 はそれ以外 (数でない)。
* 値は、指数を有効数字との間で桁を移して小さくしてから、10 の冪を二乗の繰り返しで作って
  掛ける (割る)。そのため最も近い浮動小数点数になるとは限らない。
* `readInteger` は前の空白・符号・数字を読む。先頭の 0 は数えず、19 桁を超える数や
  2^63 以上の数は 64 ビットの端に寄せる。戻りの種類は 0 が全体が整数、1 が後ろに
  余りがあるもの、-1 が数字のないもの、2 があふれ、3 がちょうど 2^63 (負なら収まる)。
* `renderReal` は実数を有効数字 15 桁で書く。指数が -4 より小さいか 14 より大きければ
  指数形式 (`e+NN`)、そうでなければ小数点の形で、末尾の 0 は除くが小数点の後に少なくとも
  一桁を残す。桁は倍精度の演算を繰り返して取り出す。
-/
namespace HttpCaching.Sql

/-- テキストの中の数のまわりの空白。 -/
def isNumberSpace (c : Char) : Bool :=
  c == ' ' || c == '\t' || c == '\n' || c == '\r' || c.toNat == 0x0B || c.toNat == 0x0C

/-- ASCII の数字の列が綴る数。 -/
def digitsValue (cs : List Char) : Nat :=
  cs.foldl (fun n c => 10 * n + (c.toNat - '0'.toNat)) 0

/-- あってもよい符号: 負かどうかと、残り。 -/
def takeSign : List Char → Bool × List Char
  | '-' :: r => (true, r)
  | '+' :: r => (false, r)
  | cs => (false, cs)

/-- 数の読み手が仮数に数字をとるのをやめる仮数の値。 -/
def keepLimit : Nat := 922337203685477579

/-- テキストが数としてどう読めるか: 符号、保った仮数 (高々十九桁)、落とした数字か端数の数字がそれを
ずらす十の冪、書いた指数、とった数字、種類 (一と、小数点と指数にそれぞれもう一つ)、
始めた指数が数字を持つかどうか、数とその後の空白の後に残るもの。 -/
structure NumberText where
  negative : Bool
  significand : Nat
  shift : Int
  exponent : Int
  digits : Nat
  kind : Nat
  exponentValid : Bool
  rest : List Char

/-- 小数点の前の数字を、`n` 桁とった仮数 `s` に読む。仮数が `keepLimit` に達すると、
残りの数字は小数点をずらすだけ。仮数、ずれ、とった数字、残りを与える。 -/
def wholeDigits : List Char → Nat → Nat → Nat × Int × Nat × List Char
  | [], s, n => (s, 0, n, [])
  | c :: r, s, n =>
    if c.isDigit then
      let s := 10 * s + (c.toNat - 48)
      if s ≥ keepLimit then
        (s, ((r.takeWhile Char.isDigit).length : Int), n + 1, r.dropWhile Char.isDigit)
      else wholeDigits r s (n + 1)
    else (s, 0, n, c :: r)

/-- 小数点の後の数字を読む: 仮数が `keepLimit` より下の間、それぞれをとって小数点を動かす。
ほかは飛ばす。 -/
def fractionDigits : List Char → Nat → Int → Nat → Nat × Int × Nat × List Char
  | [], s, d, n => (s, d, n, [])
  | c :: r, s, d, n =>
    if c.isDigit then
      if s < keepLimit then fractionDigits r (10 * s + (c.toNat - 48)) (d - 1) (n + 1)
      else fractionDigits r s d n
    else (s, d, n, c :: r)

/-- 指数の数字を読む。10000 を過ぎるとそこにとどまる。値、数字があったかどうか、残りを与える。 -/
def exponentDigits : List Char → Nat → Bool → Nat × Bool × List Char
  | [], e, seen => (e, seen, [])
  | c :: r, e, seen =>
    if c.isDigit then exponentDigits r (if e < 10000 then 10 * e + (c.toNat - 48) else 10000) true
    else (e, seen, c :: r)

/-- 先頭の空白を除いたテキストから `[+-] digits [. digits] [(e|E) [+-] digits]`
とその後の空白を読む。 -/
def readNumberBody (cs : List Char) : NumberText :=
  let (neg, r) := takeSign cs
  let (s, d, n, r) := wholeDigits r 0 0
  let (s, d, n, kind, r) := match r with
    | '.' :: r' =>
      let (s, d, n, r'') := fractionDigits r' s d n
      (s, d, n, 2, r'')
    | _ => (s, d, n, 1, r)
  let (e, kind, valid, r) := match r with
    | c :: r' =>
      if c == 'e' || c == 'E' then
        let (eneg, r'') := takeSign r'
        let (e, seen, r''') := exponentDigits r'' 0 false
        ((if eneg then -(e : Int) else e), kind + 1, seen, r''')
      else ((0 : Int), kind, true, c :: r')
    | [] => (0, kind, true, [])
  ⟨neg, s, d, e, n, kind, valid, r.dropWhile isNumberSpace⟩

/-- テキストから数を読む。空白だけのテキストは数字なしと読む。 -/
def readNumber (cs : List Char) : NumberText :=
  match cs.dropWhile isNumberSpace with
  | [] => ⟨false, 0, 0, 0, 0, 0, false, []⟩
  | body => readNumberBody body

/-- 読みの種類: テキスト全体が数ならその種類、小数点か指数のある数の後にテキストが続けば -1、
それ以外は 0。 -/
def NumberText.code (t : NumberText) : Int :=
  if t.rest.isEmpty && t.digits > 0 && t.exponentValid && t.kind > 0 then t.kind
  else if t.kind ≥ 2 && (t.kind == 3 || t.exponentValid) && t.digits > 0 then -1
  else 0

/-- テキスト全体が数かどうか。 -/
def NumberText.complete (t : NumberText) : Bool := t.code > 0

/-- 指数が正で、積が 64 ビットの上限より下にとどまる間、仮数に十を掛け、指数を下げる。 -/
def raiseSignificand (s : Nat) : Nat → Nat × Nat
  | 0 => (s, 0)
  | e + 1 => if s ≥ 922337203685477580 then (s, e + 1) else raiseSignificand (10 * s) e

/-- 仮数が零で終わり、指数が正の間、仮数を十で割る。 -/
def lowerSignificand (s : Nat) : Nat → Nat × Nat
  | 0 => (s, 0)
  | e + 1 => if s % 10 != 0 then (s, e + 1) else lowerSignificand (s / 10) e

/-- `r · x ^ e`。`e` のビットごとに `x` を二乗する。積はそれぞれ丸めるので、
結果は正確な冪に最も近い浮動小数点数とは限らない。 -/
def scaleBySquaring (x r : Float) (e : Nat) : Float :=
  if h : e = 0 then r
  else
    let r := if e % 2 == 1 then r * x else r
    if e / 2 = 0 then r else scaleBySquaring (x * x) r (e / 2)
termination_by e
decreasing_by omega

/-- 数の読み手が作る、十の `e` 乗。 -/
def tenPower (e : Nat) : Float :=
  scaleBySquaring 10.0 1.0 e

/-- 数の読み手が計算する `s · 10^e`、`down` なら `s / 10^e`: `tenPower e` との積か商を一つ、指数が
308 から 341 ならさらに `1e308` との一つ。それより先は零か無限大。 -/
def scaled (s e : Nat) (down : Bool) : Float :=
  let m := (UInt64.ofNat s).toFloat
  if e == 0 then m
  else if e > 307 then
    if e < 342 then
      if down then m / tenPower (e - 308) / 1.0e308 else m * tenPower (e - 308) * 1.0e308
    else if down then 0.0 else 1.0 / 0.0
  else if down then m / tenPower e else m * tenPower e

/-- 数のテキストが読む浮動小数点数: 指数と仮数の間で零を動かして、まず指数を小さくし、
それから仮数をずらす。 -/
def NumberText.value (t : NumberText) : Float :=
  let e := t.exponent + t.shift
  let x :=
    if t.significand == 0 then 0.0
    else if e ≥ 0 then
      let (s, k) := raiseSignificand t.significand e.toNat
      scaled s k false
    else
      let (s, k) := lowerSignificand t.significand (-e).toNat
      scaled s k true
  if t.negative then -x else x

/-- 最小の 64 ビットの整数。 -/
def leastInt : Int := -9223372036854775808

/-- 最大の 64 ビットの整数。 -/
def greatestInt : Int := 9223372036854775807

/-- 整数が 64 ビットの範囲にあるかどうか。 -/
def fitsInt (n : Int) : Bool := leastInt ≤ n && n ≤ greatestInt

/-- 浮動小数点数が表す整数。64 ビットの範囲の真に内側で。 -/
def wholeValue? (x : Float) : Option Int :=
  if x.isNaN then none
  else if x ≤ -9223372036854775808.0 || x ≥ 9223372036854775808.0 then none
  else
    let n := x.toInt64.toInt
    if (Float.ofInt n) == x then some n else none

/-- 浮動小数点数を零の方へ切り捨てた 64 ビットの整数。端では飽和する。NaN は零。 -/
def truncateFloat (x : Float) : Int :=
  if x.isNaN then 0
  else if x ≤ -9223372036854775808.0 then leastInt
  else if x ≥ 9223372036854775807.0 then greatestInt
  else x.toInt64.toInt

/-- テキストの先頭の整数がどう読めるか: 64 ビットの範囲に保った値と、種類: 整数全体なら 0、
後にテキストが続けば 1、数字がなければ -1、範囲を超える数なら 2、マイナスのないちょうど 2^63 なら
3。 -/
def readInteger (cs : List Char) : Int × Int :=
  let r := cs.dropWhile isNumberSpace
  let (neg, r) := takeSign r
  let zeros := r.takeWhile (· == '0')
  let r := r.drop zeros.length
  let ds := r.takeWhile Char.isDigit
  let after := r.drop ds.length
  let u := digitsValue ds
  let value : Int :=
    if ds.length > 19 || u > 9223372036854775807 then (if neg then leastInt else greatestInt)
    else if neg then -(u : Int) else u
  let kind : Int :=
    if ds.isEmpty && zeros.isEmpty then -1
    else if !after.all isNumberSpace then 1
    else 0
  if ds.length < 19 then (value, kind)
  else if ds.length > 19 || u > 9223372036854775808 then
    ((if neg then leastInt else greatestInt), 2)
  else if u == 9223372036854775808 then
    if neg then (leastInt, kind) else (greatestInt, 3)
  else (value, kind)

/-- 数字の印字器の丸めの一歩: 十分の一の位、百分の一の位、… の単位の半分。 -/
def roundingHalves : List Float :=
  [5.0e-01, 5.0e-02, 5.0e-03, 5.0e-04, 5.0e-05, 5.0e-06, 5.0e-07, 5.0e-08, 5.0e-09, 5.0e-10]

/-- 正の値を十の冪で `[1, 10)` に移す: 十進の数百桁ずつ、それから十ずつ、それから一つずつ。350
を過ぎると止まる。値とその十進の指数を与える。 -/
def normalizeUp (x : Float) : Float × Int :=
  let rec grow (fuel : Nat) (step : Float) (k : Int) (scale : Float) (e : Int) : Float × Int :=
    match fuel with
    | 0 => (scale, e)
    | fuel + 1 =>
      if x ≥ step * scale && e ≤ 350 then grow fuel step k (scale * step) (e + k) else (scale, e)
  let (scale, e) := grow 8 1.0e100 100 1.0 0
  let (scale, e) := grow 40 1.0e10 10 scale e
  let (scale, e) := grow 20 10.0 1 scale e
  (x / scale, e)

/-- 一より下の正の値を `[1, 10)` に上げる: `1e-8` より下の間は八桁ずつ、それから一つずつ。 -/
def normalizeDown (x : Float) (e : Int) : Float × Int :=
  let rec byEight (fuel : Nat) (x : Float) (e : Int) : Float × Int :=
    match fuel with
    | 0 => (x, e)
    | fuel + 1 => if x < 1.0e-8 then byEight fuel (x * 1.0e8) (e - 8) else (x, e)
  let rec byOne (fuel : Nat) (x : Float) (e : Int) : Float × Int :=
    match fuel with
    | 0 => (x, e)
    | fuel + 1 => if x < 1.0 then byOne fuel (x * 10.0) (e - 1) else (x, e)
  let (x, e) := byEight 60 x e
  byOne 20 x e

/-- `[0, 10)` の値の次の数字をとる: 数字はその整数部分で、残りは残りの十倍。`left` 桁の後は、
どの数字も `0`。 -/
def nextDigit (x : Float) (left : Nat) : Char × Float × Nat :=
  match left with
  | 0 => ('0', x, 0)
  | left + 1 =>
    let d := x.toUInt64.toNat
    (Char.ofNat (48 + d % 10), (x - Float.ofNat d) * 10.0, left)

/-- `n` 桁とる。 -/
def takeDigits : Nat → Float → Nat → List Char × Float × Nat
  | 0, x, left => ([], x, left)
  | n + 1, x, left =>
    let (c, x, left) := nextDigit x left
    let (cs, x, left) := takeDigits n x left
    (c :: cs, x, left)

/-- 指数の二つの数字 (100 からは三つ)。 -/
def exponentText (e : Nat) : List Char :=
  let hundreds := if e ≥ 100 then [Char.ofNat (48 + e / 100)] else []
  let e := e % 100
  hundreds ++ [Char.ofNat (48 + e / 10), Char.ofNat (48 + e % 10)]

/-- 十五桁の有効数字で書いた実数: 十進の指数が -4 より下か 14 より上なら指数の形、それ以外は位取り。
小数点の後の末尾の零は落とし、その後の一桁は保つ。 -/
def renderReal (x : Float) : String :=
  if x.isNaN then "NaN"
  else
    let negative := x < 0.0
    let v := if negative then -x else x
    let sign := if negative then "-" else ""
    let rounder := 5.0e-05 * 1.0e-10
    let (v, e, infinite) :=
      if v > 0.0 then
        let (v, e) := normalizeUp v
        let (v, e) := normalizeDown v e
        (v, e, e > 350)
      else (v, 0, false)
    if infinite then sign ++ "Inf"
    else
      let v := v + rounder
      let (v, e) := if v ≥ 10.0 then (v * 0.1, e + 1) else (v, e)
      let exponentForm := e < -4 || e > 14
      let precision : Nat := if exponentForm then 14 else (14 - e).toNat
      let whole : Int := if exponentForm then 0 else e
      let (front, v, left) :=
        if whole < 0 then (['0'], v, 26)
        else takeDigits (whole.toNat + 1) v 26
      let leadingZeros : Nat := if whole < 0 then (-whole - 1).toNat else 0
      let zeros := List.replicate (min leadingZeros precision) '0'
      let (back, _, _) := takeDigits (precision - min leadingZeros precision) v left
      let fraction := (zeros ++ back).reverse.dropWhile (· == '0') |>.reverse
      let fraction := if fraction.isEmpty then ['0'] else fraction
      let body := front ++ '.' :: fraction
      let suffix :=
        if exponentForm then 'e' :: (if e < 0 then '-' else '+') :: exponentText e.natAbs
        else []
      sign ++ String.ofList (body ++ suffix)

end HttpCaching.Sql
