/-!
# 日時のスカラー

日時は `YYYY-M-D` の日付だけか、`T` (または `t`) の後に時刻と時間帯 (`Z` か `±hh:mm`)、
あるいは空白の後に時刻 (時間帯なし) を続けたもの。月と日、時・分・秒は一桁か二桁で、
暦の上にある日付と 24 時・60 分・60 秒より前の時刻だけを認める。秒の後には `.` か `,` に
続く小数を置ける (十億分の一秒より細かい桁は捨てる)。時間帯の時は 24 まで、分は 60 まで。

時間帯のない日時と `Z` は協定世界時、ずれ 0 は機械の時間帯 (協定世界時と同じずれ)、
それ以外のずれはそのずれだけを持つ名前のない時間帯になる。時計の読みは書かれたまま。
-/
namespace HttpCaching.Yaml

/-- 日時の時計を読む時間帯: 協定世界時、機械自身の時間帯 (ずれはない)、
または秒で決まったずれの名前のない時間帯。 -/
inductive Zone where
  | utc
  | machine
  | fixed (offset : Int)
  deriving DecidableEq, Repr

/-- 日時: 先発グレゴリオ暦の日付と、時間帯の中の時計の読み。 -/
structure Timestamp where
  year : Nat
  month : Nat
  day : Nat
  hour : Nat
  minute : Nat
  second : Nat
  nanos : Nat
  zone : Zone
  deriving DecidableEq, Repr

namespace Timestamp

/-- 十進の数字。 -/
def isDigit (c : Char) : Bool := '0' ≤ c && c ≤ '9'

/-- 数字の値。 -/
def digitValue (c : Char) : Nat := c.toNat - 48

/-- 先発グレゴリオ暦の月の日数。 -/
def daysIn (month year : Nat) : Nat :=
  if month == 2 then
    if year % 4 == 0 && (year % 100 != 0 || year % 400 == 0) then 29 else 28
  else if month == 4 || month == 6 || month == 9 || month == 11 then 30
  else 31

/-- 一つか二つの数字と残り。 -/
def smallNumber? : List Char → Option (Nat × List Char)
  | a :: b :: r =>
    if !isDigit a then none
    else if isDigit b then some (digitValue a * 10 + digitValue b, r)
    else some (digitValue a, b :: r)
  | [a] => if isDigit a then some (digitValue a, []) else none
  | [] => none

/-- 端数の数字のナノ秒: 最初の九つを、零で埋めて。 -/
def nanosOf (ds : List Char) : Nat :=
  let nine := ds.take 9
  (nine ++ List.replicate (9 - nine.length) '0').foldl (fun acc c => acc * 10 + digitValue c) 0

/-- 秒の端数、`.` か `,` と少なくとも一つの数字、と残り。端数がなければ零。 -/
def fraction : List Char → Nat × List Char
  | p :: d :: r =>
    if (p == '.' || p == ',') && isDigit d then
      (nanosOf (d :: r.takeWhile isDigit), r.dropWhile isDigit)
    else (0, p :: d :: r)
  | r => (0, r)

/-- それぞれ一つか二つの数字の時計 `H:M:S`。24 時間、60 分、60 秒より前で、端数つき: 時、分、秒、
ナノ秒と残り。 -/
def clock? (cs : List Char) : Option ((Nat × Nat × Nat × Nat) × List Char) := do
  let (h, r) ← smallNumber? cs
  let r ← match r with | ':' :: r => some r | _ => none
  let (m, r) ← smallNumber? r
  let r ← match r with | ':' :: r => some r | _ => none
  let (s, r) ← smallNumber? r
  if h ≥ 24 || m ≥ 60 || s ≥ 60 then none
  else
    let (n, r) := fraction r
    some ((h, m, s, n), r)

/-- 時間帯 `Z` か、24 時間と 60 分までの `±hh:mm`。後には何もない。 -/
def zone? : List Char → Option Zone
  | ['Z'] => some .utc
  | [s, h1, h2, ':', m1, m2] =>
    if (s == '+' || s == '-') && isDigit h1 && isDigit h2 && isDigit m1 && isDigit m2 then
      let h := digitValue h1 * 10 + digitValue h2
      let m := digitValue m1 * 10 + digitValue m2
      if h ≤ 24 && m ≤ 60 then
        let offset : Int := (h * 60 + m) * 60
        some (if offset == 0 then .machine else .fixed (if s == '-' then -offset else offset))
      else none
    else none
  | _ => none

/-- 文字列の先頭の日付 `YYYY-M-D`: 年、月、日と残り。 -/
def date? (cs : List Char) : Option ((Nat × Nat × Nat) × List Char) := do
  let year := cs.take 4
  if year.length != 4 || !year.all isDigit || (cs.drop 4).head? != some '-' then none
  else
    let y := year.foldl (fun acc c => acc * 10 + digitValue c) 0
    let (mo, r) ← smallNumber? (cs.drop 5)
    let r ← match r with | '-' :: r => some r | _ => none
    let (d, r) ← smallNumber? r
    if mo < 1 || mo > 12 || d < 1 || d > daysIn mo y then none else some ((y, mo, d), r)

/-- 文字列が書く日時。書いていれば。 -/
def read? (cs : List Char) : Option Timestamp := do
  let ((y, mo, d), r) ← date? cs
  match r with
  | [] => some ⟨y, mo, d, 0, 0, 0, 0, .utc⟩
  | t :: r =>
    if t == 'T' || t == 't' then
      let ((h, mi, s, n), rest) ← clock? r
      let z ← zone? rest
      some ⟨y, mo, d, h, mi, s, n, z⟩
    else if t == ' ' then
      let ((h, mi, s, n), rest) ← clock? (r.dropWhile (· == ' '))
      if rest.isEmpty then some ⟨y, mo, d, h, mi, s, n, .utc⟩ else none
    else none

/-- 1 年 1 月 1 日からある日付までの日数。 -/
def dayNumber (year month day : Nat) : Nat :=
  let y := year - 1
  let before := y * 365 + y / 4 - y / 100 + y / 400
  let months := (List.range (month - 1)).foldl (fun acc m => acc + daysIn (m + 1) year) 0
  before + months + (day - 1)

/-- 協定世界時での 1 年の初めからその瞬間までの秒数。 -/
def instant (t : Timestamp) : Int :=
  let clockSeconds : Int :=
    dayNumber t.year t.month t.day * 86400 + t.hour * 3600 + t.minute * 60 + t.second
  match t.zone with
  | .fixed offset => clockSeconds - offset
  | _ => clockSeconds

end Timestamp

end HttpCaching.Yaml
