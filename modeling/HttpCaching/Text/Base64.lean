import HttpCaching.Text.Utf8
/-!
# Base64

RFC 4648 の標準のアルファベットで書かれたバイト列を読む。四文字ずつの組で、最後の組は
`=` か `==` で詰めてよい。CR と LF は読み飛ばす。余ったビットは問わない。
-/
namespace HttpCaching.Text

/-- base64 の一桁の値。 -/
def base64Value (c : Char) : Option Nat :=
  if 'A' ≤ c && c ≤ 'Z' then some (c.toNat - 65)
  else if 'a' ≤ c && c ≤ 'z' then some (c.toNat - 71)
  else if '0' ≤ c && c ≤ '9' then some (c.toNat + 4)
  else if c == '+' then some 62
  else if c == '/' then some 63
  else none

/-- base64 の四桁ずつの組が表すバイト。詰め物があってよいのは最後の組だけ。 -/
def base64Groups : List Char → Option (List Nat)
  | [] => some []
  | [a, b, '=', '='] => do
    let x ← base64Value a
    let y ← base64Value b
    return [x * 4 + y / 16]
  | [a, b, c, '='] => do
    let x ← base64Value a
    let y ← base64Value b
    let z ← base64Value c
    return [x * 4 + y / 16, (y % 16) * 16 + z / 4]
  | a :: b :: c :: d :: rest => do
    let x ← base64Value a
    let y ← base64Value b
    let z ← base64Value c
    let w ← base64Value d
    let more ← base64Groups rest
    return [x * 4 + y / 16, (y % 16) * 16 + z / 4, (z % 4) * 64 + w] ++ more
  | _ => none

/-- base64 のテキストが表すバイト。改行は除く。形が崩れていれば `none`。 -/
def decodeBase64 (s : String) : Option (List Nat) :=
  base64Groups (s.toList.filter fun c => c != '\r' && c != '\n')

end HttpCaching.Text
