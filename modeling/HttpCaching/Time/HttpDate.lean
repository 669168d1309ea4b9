import HttpCaching.Text.Case
/-!
# HTTP の日付

RFC 9110 §5.6.7 の三つの形式を読む:
IMF-fixdate `Sun, 06 Nov 1994 08:49:37 GMT`、RFC 850 形式 `Sunday, 06-Nov-94 08:49:37 GMT`、
asctime 形式 `Sun Nov  6 08:49:37 1994`。曜日と月の名前は大文字小文字を区別せず、曜日は
日付と照合しない。書式の空白一つは値の一つ以上の空白に当たる。秒の後の小数は読み捨てずに
ナノ秒にする。日は月の日数の範囲になければならない。読めなかったときは最後の空白の後を
大文字にしてもう一度読む (`gmt` → `GMT`)。時刻はすべて協定世界時として扱う。
-/
namespace HttpCaching.Time

/-- 文字の列の先頭を読む読み手。 -/
abbrev Reader := StateT (List Char) Option

/-- 読むのに失敗する。 -/
def fail : Reader α := fun _ => none

/-- 与えた一文字を読む。 -/
def lit (c : Char) : Reader Unit := fun s =>
  match s with
  | x :: r => if x == c then some ((), r) else none
  | [] => none

/-- 書式の空白: テキストは空か空白で始まり、その空白はすべて読む。 -/
def spaces : Reader Unit := fun s =>
  match s with
  | [] => some ((), [])
  | x :: _ => if x == ' ' then some ((), s.dropWhile (· == ' ')) else none

/-- ASCII の数字の値。 -/
def digitValue? (c : Char) : Option Nat :=
  if '0' ≤ c && c ≤ '9' then some (c.toNat - '0'.toNat) else none

/-- 一桁か二桁の数字。`fixed` なら二桁。 -/
def number (fixed : Bool) : Reader Nat := fun s =>
  match s with
  | a :: b :: r =>
    match digitValue? a, digitValue? b with
    | some x, some y => some (10 * x + y, r)
    | some x, none => if fixed then none else some (x, b :: r)
    | none, _ => none
  | [a] => match digitValue? a with
    | some x => if fixed then none else some (x, [])
    | none => none
  | [] => none

/-- 二つの ASCII の英字が、大文字と小文字を区別せずに等しいかどうか。 -/
def sameLetter (a b : Char) : Bool :=
  a == b || (a.toLower == b.toLower && 'a' ≤ a.toLower && a.toLower ≤ 'z')

/-- テキストの先頭にある、表の最初の名前を大文字と小文字を区別せずに読む。その番号を返す。 -/
def oneOf (names : List String) : Reader Nat := fun s =>
  let rec go (i : Nat) : List String → Option (Nat × List Char)
    | [] => none
    | n :: rest =>
      let cs := n.toList
      if cs.length ≤ s.length && (List.zipWith sameLetter cs (s.take cs.length)).all id then
        some (i, s.drop cs.length)
      else go (i + 1) rest
  go 0 names

def shortDays : List String := ["Sun", "Mon", "Tue", "Wed", "Thu", "Fri", "Sat"]

def longDays : List String :=
  ["Sunday", "Monday", "Tuesday", "Wednesday", "Thursday", "Friday", "Saturday"]

def shortMonths : List String :=
  ["Jan", "Feb", "Mar", "Apr", "May", "Jun", "Jul", "Aug", "Sep", "Oct", "Nov", "Dec"]

/-- 四桁の年。 -/
def longYear : Reader Int := fun s =>
  match s with
  | a :: b :: c :: d :: r =>
    match digitValue? a, digitValue? b, digitValue? c, digitValue? d with
    | some w, some x, some y, some z => some (1000 * w + 100 * x + 10 * y + z, r)
    | _, _, _, _ => none
  | _ => none

/-- 二文字の数: 二桁の数字か、符号と一桁の数字。 -/
def signedPair (a b : Char) : Option Int :=
  match digitValue? a, digitValue? b with
  | some x, some y => some (10 * x + y)
  | none, some y => if a == '-' then some (-(y : Int)) else if a == '+' then some y else none
  | _, _ => none

/-- 二桁の年: 69 から 99 は 1969 から 1999、ほかは 2000 から 2068。 -/
def shortYear : Reader Int := fun s =>
  match s with
  | a :: b :: r =>
    match signedPair a b with
    | some y => some (if y ≥ 69 then y + 1900 else y + 2000, r)
    | none => none
  | _ => none

/-- 秒と、点かコンマの後の省略可能な端数。ナノ秒で。 -/
def secondsWithFraction : Reader (Nat × Nat) := do
  let sec ← number true
  let s ← get
  match s with
  | p :: d :: _ =>
    if (p == '.' || p == ',') && d.isDigit then
      let ds := (s.drop 1).takeWhile Char.isDigit
      set ((s.drop 1).dropWhile Char.isDigit)
      let nine := (ds.take 9) ++ List.replicate (9 - min 9 ds.length) '0'
      pure (sec, nine.foldl (fun n c => 10 * n + (c.toNat - '0'.toNat)) 0)
    else pure (sec, 0)
  | _ => pure (sec, 0)

/-- 先頭にある、23 までの符号つきの時のずれ (`+5` や `-10` など) の長さ。なければ 0。 -/
def signedOffsetLength (s : List Char) : Nat :=
  match s with
  | c :: r =>
    if c != '+' && c != '-' then 0
    else
      let ds := r.takeWhile Char.isDigit
      if ds.isEmpty then 0
      else if ds.foldl (fun n d => 10 * n + (d.toNat - '0'.toNat)) 0 > 23 then 0
      else 1 + ds.length
  | [] => 0

/-- 時間帯の名前を読む: `UTC`、時のずれをつけてもよい `GMT`、符号つきのずれ、`ChST`、`MeST`、
または大文字三つから五つ (四つか五つなら `T` で終わるか `WITA`)。ずれは使わず、時刻は世界時
と読む。 -/
def zoneName : Reader Unit := fun s =>
  let take (n : Nat) : Option (Unit × List Char) := if n == 0 then none else some ((), s.drop n)
  if s.take 3 == "UTC".toList then some ((), s.drop 3)
  else if s.length < 3 then none
  else if s.take 4 == "ChST".toList || s.take 4 == "MeST".toList then take 4
  else if s.take 3 == "GMT".toList then some ((), s.drop (3 + signedOffsetLength (s.drop 3)))
  else if s.head? == some '+' || s.head? == some '-' then take (signedOffsetLength s)
  else
    let upper := (s.take 6).takeWhile fun c => 'A' ≤ c && c ≤ 'Z'
    match upper.length with
    | 3 => take 3
    | 4 => if s[3]? == some 'T' || s.take 4 == "WITA".toList then take 4 else none
    | 5 => if s[4]? == some 'T' then take 5 else none
    | _ => none

/-- 暦の日付と時刻。 -/
structure Stamp where
  year : Int
  month : Nat
  day : Nat
  hour : Nat
  minute : Nat
  second : Nat
  nano : Nat

/-- 先発グレゴリオ暦の年が閏年かどうか。 -/
def isLeap (y : Int) : Bool := y % 4 == 0 && (y % 100 != 0 || y % 400 == 0)

/-- 月 (1 から 12) の日数。 -/
def daysIn (month : Nat) (year : Int) : Nat :=
  match month with
  | 2 => if isLeap year then 29 else 28
  | 4 | 6 | 9 | 11 => 30
  | _ => 31

/-- 1970-01-01 から先発グレゴリオ暦の日付までの日数。 -/
def daysFromCivil (y : Int) (m d : Nat) : Int :=
  let y' := if m ≤ 2 then y - 1 else y
  let era := (if y' ≥ 0 then y' else y' - 399) / 400
  let yoe := y' - era * 400
  let mp : Int := (m + 9) % 12
  let doy := (153 * mp + 2) / 5 + d - 1
  let doe := yoe * 365 + yoe / 4 - yoe / 100 + doy
  era * 146097 + doe - 719468

/-- 1970-01-01T00:00:00Z からのナノ秒。 -/
def Stamp.toNanos (t : Stamp) : Int :=
  let days := daysFromCivil t.year t.month t.day
  ((days * 86400 + t.hour * 3600 + t.minute * 60 + t.second) * 1000000000) + t.nano

/-- 時刻の範囲と月の日を確かめる。 -/
def Stamp.valid (t : Stamp) : Bool :=
  t.hour < 24 && t.minute < 60 && t.second < 60 && 1 ≤ t.day && t.day ≤ daysIn t.month t.year

/-- `hh:mm:ss` と、省略可能な端数。 -/
def clock : Reader (Nat × Nat × Nat × Nat) := do
  let h ← number false
  lit ':'
  let m ← number true
  lit ':'
  let (s, ns) ← secondsWithFraction
  pure (h, m, s, ns)

/-- `Sun, 06 Nov 1994 08:49:37 GMT`。 -/
def imfFixdate : Reader Stamp := do
  let _ ← oneOf shortDays
  lit ','; spaces
  let day ← number true
  spaces
  let month ← oneOf shortMonths
  spaces
  let year ← longYear
  spaces
  let (h, m, s, ns) ← clock
  spaces; lit 'G'; lit 'M'; lit 'T'
  pure ⟨year, month + 1, day, h, m, s, ns⟩

/-- `Sunday, 06-Nov-94 08:49:37 GMT`。 -/
def rfc850Date : Reader Stamp := do
  let _ ← oneOf longDays
  lit ','; spaces
  let day ← number true
  lit '-'
  let month ← oneOf shortMonths
  lit '-'
  let year ← shortYear
  spaces
  let (h, m, s, ns) ← clock
  spaces
  zoneName
  pure ⟨year, month + 1, day, h, m, s, ns⟩

/-- `Sun Nov 6 08:49:37 1994`。 -/
def asctimeDate : Reader Stamp := do
  let _ ← oneOf shortDays
  spaces
  let month ← oneOf shortMonths
  spaces
  let s ← get
  if s.head? == some ' ' then set (s.drop 1)
  let day ← number false
  spaces
  let (h, m, sec, ns) ← clock
  spaces
  let year ← longYear
  pure ⟨year, month + 1, day, h, m, sec, ns⟩

/-- テキスト全体を一つの書式で読む。 -/
def readWith (r : Reader Stamp) (s : List Char) : Option Int :=
  match r.run s with
  | some (t, []) => if t.valid then some t.toNanos else none
  | _ => none

/-- 三つの書式のどれかの HTTP の日付。紀元からのナノ秒で。 -/
def readAny (s : List Char) : Option Int :=
  (readWith imfFixdate s).orElse fun _ => (readWith rfc850Date s).orElse fun _ => readWith asctimeDate s

/-- HTTP の日付。読めなければ、最後の空白の後のテキストを大文字にして読み直す。 -/
def parseHttpDate (text : String) : Option Int :=
  let cs := text.toList
  match readAny cs with
  | some t => some t
  | none =>
    let rev := cs.reverse
    if rev.contains ' ' then
      let tail := (rev.takeWhile (· != ' ')).reverse
      let head := (rev.dropWhile (· != ' ')).reverse
      readAny (head ++ (Text.toUpper (String.ofList tail)).toList)
    else none

end HttpCaching.Time
