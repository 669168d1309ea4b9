import HttpCaching.Sql.Value
/-!
# 書式つきの文字列

`printf` (別名 `format`) は、書式の文字列の `%` の指定ごとに次の引数を一つ取って書く。

* 指定は `%`、旗 (`-` 左寄せ、`+` と空白 符号の場所、`#` 別の形、`!` 文字で数える・
  桁を増やす、`0` 零で埋める、`,` 三桁ごとの区切り)、幅 (数字か `*`)、`.` と精度 (数字か `*`)、
  長さの印 `l`・`ll` (意味はない)、変換の文字の順。
* 変換: `d` `i` (符号つき十進)、`u` (符号なし十進)、`x` `X` `o` `p` (十六進・八進)、`r`
  (序数)、`f` `e` `E` `g` `G` (実数)、`c` (文字)、`s` `z` (テキスト)、`q` `Q` `w` (引用符を
  重ねたテキスト)、`n` (何も書かない)、`%`。知らない変換の文字か書式の途中の終わりで、書くのを
  やめる。
* 引数は整数・実数・テキストとして読む。足りない引数は NULL と同じ (0、0.0、テキストなし)。
* 実数は十のべきで `[1, 10)` に寄せ、丸めの半分を足してから一桁ずつ取り出す。取り出せる
  有効な桁は 16 (`!` で 26) で、その先は `0`。
-/
namespace HttpCaching.Sql

/-- 書式が持つ変換の種類。 -/
inductive Conversion where
  | signed
  | unsigned
  | radix (base : Nat) (upper : Bool) (altPrefix : List Nat)
  | ordinal
  | fixed
  | exponent (upper : Bool)
  | general (upper : Bool)
  | character
  | text
  | escaped (quote : Nat) (enclose : Bool)
  | count
  | percent
  deriving Inhabited

/-- 変換の文字の変換。ない文字には `none` で、出力を止める。 -/
def conversionOf (c : Nat) : Option Conversion :=
  match Char.ofNat c with
  | 'd' | 'i' => some .signed
  | 'u' => some .unsigned
  | 'x' => some (.radix 16 false [48, 120])
  | 'X' => some (.radix 16 true [48, 88])
  | 'o' => some (.radix 8 false [48])
  | 'p' => some (.radix 16 true [48, 120])
  | 'r' => some .ordinal
  | 'f' => some .fixed
  | 'e' => some (.exponent false)
  | 'E' => some (.exponent true)
  | 'g' => some (.general false)
  | 'G' => some (.general true)
  | 'c' => some .character
  | 's' | 'z' => some .text
  | 'q' => some (.escaped 39 false)
  | 'Q' => some (.escaped 39 true)
  | 'w' => some (.escaped 34 false)
  | 'n' => some .count
  | '%' => some .percent
  | _ => none

/-- 変換の旗、幅、精度。 -/
structure FormatSpec where
  leftJustify : Bool := false
  /-- 負でない数の前に置く `+` か空白。 -/
  signChar : Option Nat := none
  alternate : Bool := false
  altForm : Bool := false
  zeroPad : Bool := false
  thousands : Bool := false
  width : Nat := 0
  precision : Option Nat := none
  deriving Inhabited

/-- 書式の引数。順にとる。最後の次は NULL と読む。 -/
def takeArg : List Value → Value × List Value
  | v :: rest => (v, rest)
  | [] => (.null, [])

/-- 引数から読んだ幅か精度: 下位 32 ビットを符号つきの数として、`-2147483647` 以上。 -/
def starValue (v : Value) : Int :=
  let w := v.toInt % (4294967296 : Int)
  let w := if w ≥ 2147483648 then w - 4294967296 else w
  max (-2147483647) w

/-- バイトの先頭の数字を数として、その後のバイトとともに。 -/
def leadingNumber (bs : List Nat) : Nat × List Nat :=
  let ds := bs.takeWhile fun b => 48 ≤ b && b ≤ 57
  (ds.foldl (fun n d => (10 * n + (d - 48)) % 2147483648) 0, bs.drop ds.length)

/-- `%` の後の旗、幅、精度を、変換の文字まで読む。仕様、文字 (書式の終わりではなし)、
その後のバイト、残った引数を与える。 -/
def readSpec : Nat → FormatSpec → List Nat → List Value →
    FormatSpec × Option Nat × List Nat × List Value
  | 0, s, bs, args => (s, none, bs, args)
  | fuel + 1, s, bs, args =>
    match bs with
    | [] => (s, none, [], args)
    | c :: rest =>
      match Char.ofNat c with
      | '-' => readSpec fuel { s with leftJustify := true } rest args
      | '+' => readSpec fuel { s with signChar := some 43 } rest args
      | ' ' => readSpec fuel { s with signChar := some 32 } rest args
      | '#' => readSpec fuel { s with alternate := true } rest args
      | '!' => readSpec fuel { s with altForm := true } rest args
      | '0' => readSpec fuel { s with zeroPad := true } rest args
      | ',' => readSpec fuel { s with thousands := true } rest args
      | 'l' =>
        let rest := match rest with
          | 108 :: more => more
          | _ => rest
        match rest with
        | [] => (s, none, [], args)
        | k :: more => (s, some k, more, args)
      | '*' =>
        let (v, args) := takeArg args
        let n := starValue v
        let s := if n < 0 then { s with leftJustify := true, width := n.natAbs }
          else { s with width := n.toNat }
        match rest with
        | 46 :: _ | 108 :: _ => readSpec fuel s rest args
        | [] => (s, none, [], args)
        | k :: more => (s, some k, more, args)
      | '.' =>
        match rest with
        | 42 :: more =>
          let (v, args) := takeArg args
          let n := starValue v
          let s := { s with precision := if n < 0 then some n.natAbs else some n.toNat }
          match more with
          | 108 :: _ => readSpec fuel s more args
          | [] => (s, none, [], args)
          | k :: after => (s, some k, after, args)
        | _ =>
          let (n, more) := leadingNumber rest
          let s := { s with precision := some n }
          match more with
          | 108 :: _ => readSpec fuel s more args
          | [] => (s, none, [], args)
          | k :: after => (s, some k, after, args)
      | _ =>
        if 49 ≤ c && c ≤ 57 then
          let (n, more) := leadingNumber bs
          let s := { s with width := n }
          match more with
          | 46 :: _ | 108 :: _ => readSpec fuel s more args
          | [] => (s, none, [], args)
          | k :: after => (s, some k, after, args)
        else (s, some c, rest, args)

/-- 基数での数の数字。最上位が先、大文字か小文字で。 -/
def baseDigits (base : Nat) (upper : Bool) (n : Nat) : List Nat :=
  let digit (d : Nat) : Nat := if d < 10 then 48 + d else (if upper then 55 else 87) + d
  let rec go (fuel n : Nat) (acc : List Nat) : List Nat :=
    match fuel with
    | 0 => acc
    | fuel + 1 =>
      let acc := digit (n % base) :: acc
      if n / base == 0 then acc else go fuel (n / base) acc
  go 70 n []

/-- 右から三桁ごとの数字の前にコンマを置く。 -/
def groupThousands (ds : List Nat) : List Nat :=
  let n := ds.length
  ds.zipIdx.flatMap fun (d, i) =>
    if i > 0 && (n - i) % 3 == 0 then [44, d] else [d]

/-- 幅まで埋める前の、整数の変換のテキスト。 -/
def integerText (conv : Conversion) (s : FormatSpec) (v : Value) : List Nat :=
  let i := v.toInt
  let (magnitude, sign) : Nat × Option Nat := match conv with
    | .signed | .ordinal =>
      if i < 0 then (i.natAbs, some 45) else (i.toNat, s.signChar)
    | _ => ((i % (Nat.pow 2 64 : Int)).toNat, none)
  let (base, upper, altPrefix, thousands) : Nat × Bool × List Nat × Bool := match conv with
    | .radix b u p => (b, u, p, false)
    | .ordinal => (10, false, [], false)
    | _ => (10, false, [], s.thousands)
  let alternate := s.alternate && magnitude != 0
  let precision : Int := match s.precision with
    | some p => p
    | none => -1
  let precision : Int :=
    if s.zeroPad && precision < (s.width : Int) - (if sign.isSome then 1 else 0) then
      (s.width : Int) - (if sign.isSome then 1 else 0)
    else precision
  let suffix : List Nat := match conv with
    | .ordinal =>
      let x := magnitude % 10
      let x := if x ≥ 4 || (magnitude / 10) % 10 == 1 then 0 else x
      match x with
      | 1 => [115, 116]
      | 2 => [110, 100]
      | 3 => [114, 100]
      | _ => [116, 104]
    | _ => []
  let body := baseDigits base upper magnitude ++ suffix
  let body := List.replicate (precision.toNat - body.length) 48 ++ body
  let body := if thousands then groupThousands body else body
  let body := sign.toList ++ body
  if alternate then altPrefix ++ body else body

/-- 有効数字が残っている間は `[0, 10)` の値の数字を一つ、それ以外は `0`: 数字は整数部分で、
残りの十倍が残るもの。 -/
def takeDigit (x : Float) (left : Nat) : Nat × Float × Nat :=
  match left with
  | 0 => (48, x, 0)
  | left + 1 =>
    let d := x.toUInt64.toNat
    (48 + d % 10, (x - Float.ofNat d) * 10.0, left)

/-- `n` 桁とる。 -/
def takeDigitsN (n : Nat) (x : Float) (left : Nat) : List Nat × Float × Nat :=
  let rec go : Nat → Float → Nat → List Nat → List Nat × Float × Nat
    | 0, x, left, acc => (acc.reverse, x, left)
    | n + 1, x, left, acc =>
      let (c, x, left) := takeDigit x left
      go n x left (c :: acc)
  go n x left []

/-- 小数点の後の桁数に対する丸めの半分: 最後の桁の次の位に五。 -/
def rounderFor (digits : Nat) : Float :=
  let tens := digits / 10
  let base := roundingHalves.getD (digits % 10) 0.5
  (List.replicate tens ()).foldl (fun r _ => r * 1.0e-10) base

/-- 浮動小数点数の偏りを除いた二進の指数。そのビットから。 -/
def binaryExponent (x : Float) : Int := ((x.toBits.toNat / Nat.pow 2 52) % 2048 : Nat) - 1023

/-- 幅まで埋める前の実数の変換のテキストと、前の符号の長さ。幅が求めれば零はその後に入る (`NaN` と
`Inf` には零が入らないので、なし)。 -/
def realText (conv : Conversion) (s : FormatSpec) (x : Float) : List Nat × Option Nat :=
  let negative := x < 0.0
  let v := if negative then -x else x
  let sign : Option Nat := if negative then some 45 else s.signChar
  let prec0 : Nat := s.precision.getD 6
  let isGeneral := match conv with
    | .general _ => true
    | _ => false
  let isFixed := match conv with
    | .fixed => true
    | _ => false
  let prec := if isGeneral && prec0 > 0 then prec0 - 1 else prec0
  let rounder := rounderFor (prec % 4096)
  let rounder :=
    if isFixed && (prec : Int) + Int.tdiv (binaryExponent v) 3 < 15 then rounder + v * 3.0e-16
    else rounder
  let v := if isFixed then v + rounder else v
  if v.isNaN then ([78, 97, 78], none)
  else
    let (v, e, infinite) :=
      if v > 0.0 then
        let (v, e) := normalizeUp v
        let (v, e) := normalizeDown v e
        (v, e, e > 350)
      else (v, (0 : Int), false)
    if infinite then (sign.toList ++ [73, 110, 102], none)
    else
      let (v, e) :=
        if isFixed then (v, e)
        else
          let v := v + rounder
          if v ≥ 10.0 then (v * 0.1, e + 1) else (v, e)
      let (useExp, prec, trimZeros) :=
        if isGeneral then
          if e < -4 || e > (prec : Int) then (true, prec, !s.alternate)
          else (false, ((prec : Int) - e).toNat, !s.alternate)
        else (!isFixed, prec, s.altForm)
      let e2 : Int := if useExp then 0 else e
      let significant := if s.altForm then 26 else 16
      let point := prec > 0 || s.alternate || s.altForm
      let (front, v, left) :=
        if e2 < 0 then ([48], v, significant)
        else takeDigitsN (e2.toNat + 1) v significant
      let leadingZeros : Nat := if e2 < 0 then (-e2 - 1).toNat else 0
      let zeros := List.replicate (min leadingZeros prec) 48
      let (back, _, _) := takeDigitsN (prec - min leadingZeros prec) v left
      let fraction := zeros ++ back
      let body :=
        if !point then front
        else if trimZeros then
          let kept := (fraction.reverse.dropWhile (· == 48)).reverse
          if kept.isEmpty then (if s.altForm then front ++ [46, 48] else front)
          else front ++ 46 :: kept
        else front ++ 46 :: fraction
      let expChar : Nat := match conv with
        | .exponent true | .general true => 69
        | _ => 101
      let suffix : List Nat :=
        if useExp then
          let n := e.natAbs
          let hundreds := if n ≥ 100 then [48 + n / 100] else []
          let n := n % 100
          expChar :: (if e < 0 then 45 else 43) :: hundreds ++ [48 + n / 10, 48 + n % 10]
        else []
      (sign.toList ++ body ++ suffix, some (if sign.isSome then 1 else 0))

/-- テキストの引数の最初の NUL までのバイト。NULL は持たない。 -/
def argBytes (v : Value) : Option (List Nat) := v.asText?.map fun t => (Text.bytesOf t).takeWhile (· != 0)

/-- バイトの最初の UTF-8 の文字: 先頭のバイトと高々三つの継続バイト。 -/
def firstCharBytes : List Nat → List Nat
  | [] => []
  | b :: rest =>
    if b % 256 ≥ 0xC0 then b :: (rest.takeWhile (fun c => c / 64 == 2)).take 3 else [b]

/-- 最初の `n` 個の UTF-8 の文字のバイト。 -/
def takeChars (n : Nat) (bs : List Nat) : List Nat :=
  let rec go (fuel n : Nat) (bs : List Nat) (acc : List Nat) : List Nat :=
    match fuel, n, bs with
    | 0, _, _ => acc.reverse
    | _, 0, _ => acc.reverse
    | _, _, [] => acc.reverse
    | fuel + 1, n + 1, b :: rest =>
      let more := if b ≥ 0xC0 then rest.takeWhile fun c => c / 64 == 2 else []
      go fuel n (rest.drop more.length) ((more.reverse ++ [b]) ++ acc)
  go (bs.length + 1) n bs []

/-- 継続バイトの数。`!` の旗は幅にそれを数えない。 -/
def continuationBytes (bs : List Nat) : Nat := (bs.filter fun c => c / 64 == 2).length

/-- 切れを空白で幅まで埋める。左寄せでなければ左に。 -/
def padTo (s : FormatSpec) (width : Nat) (bs : List Nat) : List Nat :=
  let gap := width - bs.length
  if gap == 0 then bs
  else if s.leftJustify then bs ++ List.replicate gap 32
  else List.replicate gap 32 ++ bs

/-- 一つの変換の出力と、残った引数。 -/
def convert (conv : Conversion) (s : FormatSpec) (args : List Value) : List Nat × List Value :=
  match conv with
  | .signed | .unsigned | .radix .. | .ordinal =>
    let (v, args) := takeArg args
    (padTo s s.width (integerText conv s v), args)
  | .fixed | .exponent _ | .general _ =>
    let (v, args) := takeArg args
    let (body, signLength) := realText conv s v.toReal
    let body := match signLength with
      | some k =>
        if s.zeroPad && !s.leftJustify && body.length < s.width then
          body.take k ++ List.replicate (s.width - body.length) 48 ++ body.drop k
        else body
      | none => body
    (padTo s s.width body, args)
  | .count => ([], args)
  | .percent => (padTo s s.width [37], args)
  | .character =>
    let (v, args) := takeArg args
    let one := match argBytes v with
      | some bs => match firstCharBytes bs with
        | [] => [0]
        | cs => cs
      | none => [0]
    let copies := max 1 (s.precision.getD 1)
    let width : Int := if copies > 1 then (s.width : Int) - (copies - 1) else s.width
    let (front, width) :=
      if copies > 1 && width > 1 && !s.leftJustify then (List.replicate (width - 1).toNat 32, (0 : Int))
      else ([], width)
    let width := width + continuationBytes one
    let last := padTo s width.toNat one
    (front ++ (List.replicate (copies - 1) one).flatten ++ last, args)
  | .text =>
    let (v, args) := takeArg args
    let bs := (argBytes v).getD []
    let bs := match s.precision with
      | some p => if s.altForm then takeChars p bs else bs.take p
      | none => bs
    let width := if s.altForm && s.width > 0 then s.width + continuationBytes bs else s.width
    (padTo s width bs, args)
  | .escaped q enclose =>
    let (v, args) := takeArg args
    let isNull := (argBytes v).isNone
    let bs := (argBytes v).getD (Text.bytesOf (if enclose then "NULL" else "(NULL)"))
    let bs := match s.precision with
      | some p => if s.altForm then takeChars p bs else bs.take p
      | none => bs
    let doubled := bs.flatMap fun b => if b == q then [b, b] else [b]
    let body := if enclose && !isNull then q :: doubled ++ [q] else doubled
    let width := if s.altForm && s.width > 0 then s.width + continuationBytes body else s.width
    (padTo s width body, args)

/-- 書式づけたテキストが持てる最大のバイト。 -/
def formatLimit : Nat := 1000000000

/-- `printf` がするように、書式のバイトを引数で書式づける。幅か精度がテキストの持てる最大のバイトよ
り多くを求めれば `none`。 -/
def formatBytes (fmt : List Nat) (args : List Value) : Option (List Nat) :=
  let rec go (fuel : Nat) (fmt : List Nat) (args : List Value) (acc : List (List Nat)) :
      Option (List Nat) :=
    match fuel with
    | 0 => some acc.reverse.flatten
    | fuel + 1 =>
      let plain := fmt.takeWhile (· != 37)
      let acc := plain :: acc
      match fmt.drop plain.length with
      | [] => some acc.reverse.flatten
      | _ :: [] => some ([37] :: acc).reverse.flatten
      | _ :: rest =>
        let (s, c, after, args) := readSpec (rest.length + 1) {} rest args
        match c.bind conversionOf with
        | none => some acc.reverse.flatten
        | some conv =>
          if s.width ≥ formatLimit || (s.precision.getD 0) ≥ formatLimit then none
          else
            let (out, args) := convert conv s args
            go fuel after args (out :: acc)
  go (fmt.length + 1) fmt args []

/-- `printf(format, args…)` の値: 書式がない、書式が NULL、またはテキストが長すぎるなら NULL。 -/
def printfValue (args : List Value) : Value :=
  match args with
  | [] => .null
  | f :: rest =>
    match argBytes f with
    | none => .null
    | some fmt =>
      match formatBytes fmt rest with
      | some out => .text (Text.ofUtf8 out)
      | none => .null

end HttpCaching.Sql
