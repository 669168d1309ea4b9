import HttpCaching.Sql.Printf
/-!
# 日付と時刻

`date`・`time`・`datetime`・`julianday`・`unixepoch`・`strftime` は、時刻の値を一つ読み、修飾を
順に当て、結果を書く。読めない値や当てられない修飾では NULL。

* 時刻はユリウス日をミリ秒で数えた整数、または年月日と時分秒 (とタイムゾーン) で持ち、
  必要になったとき片方から他方を計算する。ユリウス日が 0 から `464269060799999` の外なら
  失敗。年が -4713 から 9999 の外でも失敗。
* 値は `YYYY-MM-DD`、その後に空白か `T` と `HH:MM[:SS[.FFF]]`、`HH:MM…` だけ、`now`、
  または数 (そのままではユリウス日、`unixepoch` や `auto` の修飾で Unix 時刻)。時刻の後の
  `[+-]HH:MM` か `Z` はタイムゾーン。
* 修飾: `N days` などの足し算 (`second`・`minute`・`hour`・`day`・`month`・`year`、複数形も)、
  `±HH:MM[:SS]`、`start of day|month|year`、`weekday N`、`unixepoch`・`julianday`・`auto`
  (最初の修飾のときだけ)、`localtime`・`utc` (時差は 0)。
* 今の時刻は、文の時計の 2025-06-15 15:06:40 (Unix 時刻 1750000000)。
-/
namespace HttpCaching.Sql

/-- 扱っている途中の日付と時刻: ミリ秒のユリウス日、暦の日付、一日の時刻、分での帯のずれ、
そのうちどれが成り立つか、秒の欄がまだ日付として読んでいない裸の数かどうか。 -/
structure Moment where
  jd : Int := 0
  year : Int := 0
  month : Int := 0
  day : Int := 0
  hour : Int := 0
  minute : Int := 0
  second : Float := 0.0
  tz : Int := 0
  validJD : Bool := false
  validYMD : Bool := false
  validHMS : Bool := false
  validTZ : Bool := false
  rawS : Bool := false
  tzSet : Bool := false
  isError : Bool := false
  deriving Inhabited

namespace Moment

/-- 失敗の後の状態: 何も成り立たない。 -/
def failed : Moment := { isError := true }

/-- 時計の今の時刻の、ミリ秒のユリウス日。 -/
def nowJD : Int := 212616760000000

/-- ミリ秒のユリウス日が、日付が持てる範囲にあるかどうか。 -/
def validDay (jd : Int) : Bool := 0 ≤ jd && jd ≤ 464269060799999

/-- 暦の日付 (なければ 2000-01-01) と、成り立てば一日の時刻から、帯のずれを引いて、
ユリウス日を成り立たせる。範囲外の年か裸の数は失敗する。 -/
def computeJD (p : Moment) : Moment :=
  if p.validJD then p
  else
    let (y, m, d) := if p.validYMD then (p.year, p.month, p.day) else (2000, 1, 1)
    if y < -4713 || y > 9999 || p.rawS then failed
    else
      let (y, m) := if m ≤ 2 then (y - 1, m + 12) else (y, m)
      let a := Int.tdiv y 100
      let b := 2 - a + Int.tdiv a 4
      let x1 := Int.tdiv (36525 * (y + 4716)) 100
      let x2 := Int.tdiv (306001 * (m + 1)) 10000
      let jd := truncateFloat ((Float.ofInt (x1 + x2 + d + b) - 1524.5) * 86400000.0)
      let p := { p with jd, validJD := true }
      if p.validHMS then
        let jd := p.jd + p.hour * 3600000 + p.minute * 60000 +
          truncateFloat (p.second * 1000.0 + 0.5)
        if p.validTZ then
          { p with
            jd := jd - p.tz * 60000, validYMD := false, validHMS := false, validTZ := false }
        else { p with jd }
      else p

/-- ユリウス日 (なければ 2000-01-01) から、暦の日付を成り立たせる。 -/
def computeYMD (p : Moment) : Moment :=
  if p.validYMD then p
  else if !p.validJD then { p with year := 2000, month := 1, day := 1, validYMD := true }
  else if !validDay p.jd then failed
  else
    let z : Int := Int.tdiv (p.jd + 43200000) 86400000
    let a : Int := truncateFloat ((Float.ofInt z - 1867216.25) / 36524.25)
    let a := z + 1 + a - Int.tdiv a 4
    let b := a + 1524
    let c : Int := truncateFloat ((Float.ofInt b - 122.1) / 365.25)
    let d := Int.tdiv (36525 * (c % 32768)) 100
    let e : Int := truncateFloat (Float.ofInt (b - d) / 30.6001)
    let x1 : Int := truncateFloat (30.6001 * Float.ofInt e)
    let month := if e < 14 then e - 1 else e - 13
    let year := if month > 2 then c - 4716 else c - 4715
    { p with year, month, day := b - d - x1, validYMD := true }

/-- ユリウス日から、一日の時刻を成り立たせる。 -/
def computeHMS (p : Moment) : Moment :=
  if p.validHMS then p
  else
    let p := p.computeJD
    let ms : Int := Int.tmod (p.jd + 43200000) 86400000
    let sec : Float := Float.ofInt ms / 1000.0
    let whole : Int := truncateFloat sec
    let hour := Int.tdiv whole 3600
    let rest := whole - hour * 3600
    let minute := Int.tdiv rest 60
    { p with
      hour, minute, second := sec - Float.ofInt whole + Float.ofInt (rest - minute * 60),
      rawS := false, validHMS := true }

/-- 暦の日付と一日の時刻の両方を成り立たせる。 -/
def computeYMDHMS (p : Moment) : Moment := p.computeYMD.computeHMS

/-- ユリウス日を保って、暦の日付、一日の時刻、帯を忘れる。 -/
def clearParts (p : Moment) : Moment := { p with validYMD := false, validHMS := false, validTZ := false }

/-- 裸の数: 値を秒として保ち、ユリウス日であればユリウス日として読む。 -/
def rawNumber (r : Float) : Moment :=
  if r ≥ 0.0 && r < 5373484.5 then
    { second := r, rawS := true, jd := truncateFloat (r * 86400000.0 + 0.5), validJD := true }
  else { second := r, rawS := true }

end Moment

/-- バイトが日付の読み手にとって空白かどうか。 -/
def isDateSpace (b : Nat) : Bool := b == 32 || (9 ≤ b && b ≤ 13)

/-- バイトが ASCII の数字かどうか。 -/
def isDigitOctet (b : Nat) : Bool := 48 ≤ b && b ≤ 57

/-- 範囲にある `n` 桁の欄を、区切りが与えられればその後に区切りを続けて (それを過ぎて) 読む。値と、
その後のバイトを与える。 -/
def readDigits (n : Nat) (lo hi : Int) (sep : Option Nat) (bs : List Nat) : Option (Int × List Nat) :=
  let ds := bs.take n
  if ds.length < n || !ds.all isDigitOctet then none
  else
    let v : Int := ds.foldl (fun acc d => 10 * acc + ((d - 48 : Nat) : Int)) 0
    let rest := bs.drop n
    if v < lo || v > hi then none
    else match sep with
      | none => some (v, rest)
      | some c =>
        match rest with
        | x :: more => if x == c then some (v, more) else none
        | [] => none

/-- 時刻の後の帯を読む: 空白、それから `[+-]HH:MM` か `Z`、それから終わりまで空白。
何もなければ帯なし。ほかのものでは失敗する。 -/
def readZone (bs : List Nat) (p : Moment) : Option Moment :=
  let bs := bs.dropWhile isDateSpace
  let p := { p with tz := 0 }
  let finish (bs : List Nat) (p : Moment) : Option Moment :=
    if (bs.dropWhile isDateSpace).isEmpty then some { p with tzSet := true } else none
  match bs with
  | [] => some p
  | c :: rest =>
    if c == 90 || c == 122 then finish rest p
    else if c == 45 || c == 43 then do
      let (hours, rest) ← readDigits 2 0 14 (some 58) rest
      let (minutes, rest) ← readDigits 2 0 59 none rest
      let sign : Int := if c == 45 then -1 else 1
      finish rest { p with tz := sign * (minutes + hours * 60) }
    else none

/-- `HH:MM[:SS[.FFF]]` と帯を瞬間に読む。 -/
def readTime (bs : List Nat) (p : Moment) : Option Moment := do
  let (h, rest) ← readDigits 2 0 24 (some 58) bs
  let (m, rest) ← readDigits 2 0 59 none rest
  let (s, rest) ← match rest with
    | 58 :: more => do
      let (s, more) ← readDigits 2 0 59 none more
      match more with
      | 46 :: d :: tail =>
        if isDigitOctet d then
          let ds := (d :: tail).takeWhile isDigitOctet
          let (ms, scale) := ds.foldl (fun (acc : Float × Float) c =>
            (acc.1 * 10.0 + Float.ofNat (c - 48), acc.2 * 10.0)) (0.0, 1.0)
          pure (Float.ofInt s + ms / scale, (d :: tail).drop ds.length)
        else pure (Float.ofInt s, more)
      | _ => pure (Float.ofInt s, more)
    | _ => pure (0.0, rest)
  let p := { p with
    validJD := false, rawS := false, validHMS := true, hour := h, minute := m, second := s }
  let p ← readZone rest p
  return { p with validTZ := p.tz != 0 }

/-- `[-]YYYY-MM-DD` を、それからあってもよい空白か `T` と時刻を読む。 -/
def readDate (bs : List Nat) : Option Moment := do
  let (neg, bs) := match bs with
    | 45 :: rest => (true, rest)
    | _ => (false, bs)
  let (y, rest) ← readDigits 4 0 9999 (some 45) bs
  let (m, rest) ← readDigits 2 1 12 (some 45) rest
  let (d, _) ← readDigits 2 1 31 none rest
  let rest := (bs.drop 10).dropWhile fun b => isDateSpace b || b == 84
  let p : Moment ← match readTime rest {} with
    | some p => pure p
    | none => if rest.isEmpty then pure { validHMS := false } else none
  let p := { p with
    validJD := false, validYMD := true, year := if neg then -y else y, month := m, day := d }
  return if p.validTZ then p.computeJD else p

/-- テキストの小文字のバイト。 -/
def lowerOctets (bs : List Nat) : List Nat := bs.map Collation.foldByte

/-- テキスト全体が数であるとき、その数。 -/
def wholeNumber? (bs : List Nat) : Option Float :=
  let t := readNumber (Text.ofUtf8 bs).toList
  if t.complete then some t.value else none

/-- 日付、時刻、`now`、または数を読む。 -/
def readMoment (bs : List Nat) : Option Moment :=
  match readDate bs with
  | some p => some p
  | none =>
    match readTime bs {} with
    | some p => some p
    | none =>
      if lowerOctets bs == Text.bytesOf "now" then some { jd := Moment.nowJD, validJD := true }
      else (wholeNumber? bs).map Moment.rawNumber

/-- `±N unit` の修飾子が足せる長さ: 単位の名前、許す最大の大きさ、秒での長さ。 -/
def modifierUnits : List (String × Float × Float) :=
  [("second", 464269992787968.0, 1.0), ("minute", 7737900007424.0, 60.0),
   ("hour", 128969998336.0, 3600.0), ("day", 5373485.0, 86400.0),
   ("month", 176546.0, 2592000.0), ("year", 14713.0, 31536000.0)]

/-- `±N unit` か `±HH:MM[:SS]` の修飾子を当てる。 -/
def addModifier (bs : List Nat) (p : Moment) : Option Moment := do
  let numberPart := match bs with
    | c :: rest => c :: rest.takeWhile fun b => b != 58 && !isDateSpace b
    | [] => []
  let r ← wholeNumber? numberPart
  let after := bs.drop numberPart.length
  match after with
  | 58 :: _ =>
    let timeText := match bs with
      | c :: rest => if isDigitOctet c then bs else rest
      | [] => []
    let tx ← readTime timeText {}
    let tx := tx.computeJD
    let t := tx.jd - 43200000
    let t := t - Int.tdiv t 86400000 * 86400000
    let t := if bs.head? == some 45 then -t else t
    let p := p.computeJD.clearParts
    return { p with jd := p.jd + t }
  | _ =>
    let unitText := after.dropWhile isDateSpace
    let n := unitText.length
    if n > 10 || n < 3 then none
    let n := if unitText.getLast?.any (fun c => Collation.foldByte c == 115) then n - 1 else n
    let p := p.computeJD
    let rounder : Float := if r < 0.0 then -0.5 else 0.5
    let unit := modifierUnits.find? fun (name, limit, _) =>
      (Text.bytesOf name).length == n && Text.bytesOf name == lowerOctets (unitText.take n) &&
        r > -limit && r < limit
    match unit with
    | none => none
    | some (name, _, seconds) =>
      let whole := truncateFloat r
      let (p, r) :=
        if name == "month" then
          let q := p.computeYMDHMS
          let month := q.month + whole
          let x := if month > 0 then Int.tdiv (month - 1) 12 else Int.tdiv (month - 12) 12
          ({ q with year := q.year + x, month := month - x * 12, validJD := false },
            r - Float.ofInt whole)
        else if name == "year" then
          let q := p.computeYMDHMS
          ({ q with year := q.year + whole, validJD := false }, r - Float.ofInt whole)
        else (p, r)
      let p := p.computeJD
      let p := { p with jd := p.jd + truncateFloat (r * 1000.0 * seconds + rounder) }
      return p.clearParts

/-- 修飾子を一つ、`idx` 番目 (一から) のものを当てる。 -/
def applyModifier (bs : List Nat) (idx : Nat) (p : Moment) : Option Moment :=
  let low := lowerOctets bs
  let is (word : String) : Bool := low == Text.bytesOf word
  match low.head? with
  | some 97 =>
    if !is "auto" || idx > 1 then none
    else if !p.rawS || p.validJD then some { p with rawS := false }
    else if p.second ≥ -210866760000.0 && p.second ≤ 253402300799.0 then
      let r := p.second * 1000.0 + 210866760000000.0
      some { p.clearParts with jd := truncateFloat (r + 0.5), validJD := true, rawS := false }
    else none
  | some 106 =>
    if !is "julianday" || idx > 1 then none
    else if p.validJD && p.rawS then some { p with rawS := false }
    else none
  | some 108 =>
    if is "localtime" then some p.computeJD.clearParts else none
  | some 117 =>
    if is "unixepoch" && p.rawS then
      if idx > 1 then none
      else
        let r := p.second * 1000.0 + 210866760000000.0
        if r ≥ 0.0 && r < 464269060800000.0 then
          some { p.clearParts with jd := truncateFloat (r + 0.5), validJD := true, rawS := false }
        else none
    else if is "utc" then
      if p.tzSet then some p else some { p.computeJD.clearParts with tzSet := true }
    else none
  | some 119 =>
    if low.take 8 != Text.bytesOf "weekday " then none
    else do
      let r ← wholeNumber? (bs.drop 8)
      let n := truncateFloat r
      if Float.ofInt n != r || n < 0 || r ≥ 7.0 then none
      let q := { p.computeYMDHMS with validTZ := false, validJD := false }.computeJD
      let z := Int.tmod (Int.tdiv (q.jd + 129600000) 86400000) 7
      let z := if z > n then z - 7 else z
      return { q with jd := q.jd + (n - z) * 86400000 }.clearParts
  | some 115 =>
    if low.take 9 != Text.bytesOf "start of " then none
    else if !p.validJD && !p.validYMD && !p.validHMS then none
    else
      let q := { p.computeYMD with
        validHMS := true, hour := 0, minute := 0, second := 0.0, rawS := false, validTZ := false,
        validJD := false }
      let unit := low.drop 9
      if unit == Text.bytesOf "month" then some { q with day := 1 }
      else if unit == Text.bytesOf "year" then some { q with month := 1, day := 1 }
      else if unit == Text.bytesOf "day" then some q
      else none
  | some c =>
    if c == 43 || c == 45 || isDigitOctet c then addModifier bs p else none
  | none => none

/-- 値のテキストの、最初の NUL までのバイト。NULL は持たない。 -/
def dateText (v : Value) : Option (List Nat) :=
  v.asText?.map fun t => (Text.bytesOf t).takeWhile (· != 0)

/-- 時刻の値を読み、その後の修飾子を当てる。どれかの歩が失敗すればなし。
値がまったくなければ今の時刻。 -/
def readWithModifiers (args : List Value) : Option Moment := do
  let p ← match args with
    | [] => some { jd := Moment.nowJD, validJD := true }
    | v :: _ =>
      match v with
      | .integer _ | .real _ => some (Moment.rawNumber v.toReal)
      | _ => (dateText v).bind readMoment
  let p ← (args.drop 1).zipIdx.foldlM (fun (p : Moment) (m, i) => do
    let bs ← dateText m
    applyModifier bs (i + 1) p) p
  let p := p.computeJD
  if p.isError || !Moment.validDay p.jd then none else some p

/-- `printf` で書式づけたバイト。 -/
def formatted (fmt : String) (args : List Value) : List Nat :=
  (formatBytes (Text.bytesOf fmt) args).getD []

/-- 書式に対して `strftime` が書くテキスト。書式が知らない変換を持てばなし。 -/
def strftimeBytes (fmt : List Nat) (p : Moment) : Option (List Nat) :=
  let known : List Nat := (Text.bytesOf "dHmMSWw%fjYsJ")
  let rec check (fuel : Nat) (bs : List Nat) : Bool :=
    match fuel, bs with
    | 0, _ => true
    | _, [] => true
    | fuel + 1, 37 :: c :: rest => known.contains c && check fuel rest
    | _, 37 :: [] => false
    | fuel + 1, _ :: rest => check fuel rest
  if !check (fmt.length + 1) fmt then none
  else
    let p := p.computeJD.computeYMDHMS
    let int (n : Int) : Value := .integer n
    let dayOfYear : Int :=
      let y := { p with validJD := false, month := 1, day := 1 }.computeJD
      Int.tdiv (p.jd - y.jd + 43200000) 86400000
    let piece (c : Nat) : List Nat :=
      match Char.ofNat c with
      | 'd' => (formatted "%02d" [int p.day]).take 2
      | 'f' =>
        let s := if p.second > 59.999 then 59.999 else p.second
        (formatted "%06.3f" [.real s]).take 6
      | 'H' => (formatted "%02d" [int p.hour]).take 2
      | 'W' =>
        let wd := Int.tmod (Int.tdiv (p.jd + 43200000) 86400000) 7
        (formatted "%02d" [int (Int.tdiv (dayOfYear + 7 - wd) 7)]).take 2
      | 'j' => (formatted "%03d" [int (dayOfYear + 1)]).take 3
      | 'J' => (formatted "%.16g" [.real (Float.ofInt p.jd / 86400000.0)]).take 19
      | 'm' => (formatted "%02d" [int p.month]).take 2
      | 'M' => (formatted "%02d" [int p.minute]).take 2
      | 's' => Text.bytesOf (toString (Int.tdiv p.jd 1000 - 210866760000))
      | 'S' => (formatted "%02d" [int (truncateFloat p.second)]).take 2
      | 'w' => [48 + (Int.tmod (Int.tdiv (p.jd + 129600000) 86400000) 7).toNat]
      | 'Y' => (formatted "%04d" [int p.year]).take 4
      | _ => [37]
    let rec go (fuel : Nat) (bs : List Nat) (acc : List (List Nat)) : List Nat :=
      match fuel, bs with
      | 0, _ => acc.reverse.flatten
      | _, [] => acc.reverse.flatten
      | fuel + 1, 37 :: c :: rest => go fuel rest (piece c :: acc)
      | fuel + 1, b :: rest => go fuel rest ([b] :: acc)
    some (go (fmt.length + 1) fmt [])

/-- 小文字の名前による日付と時刻の関数の値。時刻の値か修飾子が読めなければ NULL。 -/
def dateValue (name : String) (args : List Value) : Value :=
  let text (bs : List Nat) : Value := .text (Text.ofUtf8 bs)
  match name with
  | "strftime" =>
    match args with
    | [] => .null
    | f :: rest =>
      match dateText f, readWithModifiers rest with
      | some fmt, some p => ((strftimeBytes fmt p).map text).getD .null
      | _, _ => .null
  | _ =>
    match readWithModifiers args with
    | none => .null
    | some p =>
      let int (n : Int) : Value := .integer n
      match name with
      | "date" | "current_date" =>
        let p := p.computeYMD
        text (formatted "%04d-%02d-%02d" [int p.year, int p.month, int p.day])
      | "time" | "current_time" =>
        let p := p.computeHMS
        text (formatted "%02d:%02d:%02d" [int p.hour, int p.minute, int (truncateFloat p.second)])
      | "julianday" => .real (Float.ofInt p.jd / 86400000.0)
      | "unixepoch" => .integer (Int.tdiv p.jd 1000 - 210866760000)
      | _ =>
        let p := p.computeYMDHMS
        text (formatted "%04d-%02d-%02d %02d:%02d:%02d" [int p.year, int p.month, int p.day,
          int p.hour, int p.minute, int (truncateFloat p.second)])

end HttpCaching.Sql
