/-!
# delta-seconds

RFC 9111 §1.2.2: `delta-seconds = 1*DIGIT`。int64 に収まらない値は 2^31 と読む。
-/
namespace HttpCaching.Field

/-- 大きすぎて持てない delta-seconds の代わりの値: 2^31。 -/
def maxDeltaSeconds : Int64 := 2147483648

/-- 文字が ASCII の数字かどうか。 -/
def isDigit (c : Char) : Bool := '0' ≤ c && c ≤ '9'

/-- 空でない、ASCII の数字だけのテキスト。 -/
def isDigits (s : String) : Bool := !s.isEmpty && s.toList.all isDigit

/-- ASCII の数字の列が表す数。 -/
def digitsValue (cs : List Char) : Nat :=
  cs.foldl (fun n c => 10 * n + (c.toNat - '0'.toNat)) 0

/-- delta-seconds を読む: 数字だけで、符号つき 64 ビット整数の最大値を超える数は 2^31 と読む。 -/
def readDeltaSeconds? (s : String) : Option Int64 :=
  if isDigits s then
    let n := digitsValue s.toList
    if n ≤ 9223372036854775807 then some (Int64.ofNat n) else some maxDeltaSeconds
  else none

end HttpCaching.Field
