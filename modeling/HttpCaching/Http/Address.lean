import HttpCaching.Text.Literal
/-!
# IP アドレスの表記

角括弧で囲まれたホストが IP アドレスとして読めるかを調べる。最初に現れる `.`・`:`・`%` で
形式が決まる。`.` なら IPv4 の四つの十進の欄 (先頭の 0 と 255 を超える値は誤り)。`:` なら
IPv6 の十六進の欄で、各欄は 4 桁まで、`::` は一度だけ、最後の二欄の代わりに IPv4 を
埋め込める。`%` の後のゾーンは空であってはならない。読めないときは、入力と問題と、
問題の見つかった所から後の部分を報告する。
-/
namespace HttpCaching.Http

/-- 読んだアドレスの種類。 -/
inductive AddressFamily where
  | v4
  | v6
  deriving DecidableEq, Repr

/-- バイトが IP アドレスでないわけ: 入力の全体、問題、それが見つかったところからの入力の部分
(言わないときは空)。 -/
structure AddressError where
  input : List Nat
  problem : String
  rest : List Nat

/-- アドレスの問題の文。 -/
def AddressError.message (e : AddressError) : String :=
  "ParseAddr(" ++ Text.quoteOctets e.input ++ "): " ++ e.problem ++
    (if e.rest.isEmpty then "" else " (at " ++ Text.quoteOctets e.rest ++ ")")

/-- バイトが ASCII の十六進の数字かどうか。 -/
def isHexByte (b : Nat) : Bool :=
  (48 ≤ b && b ≤ 57) || (97 ≤ b && b ≤ 102) || (65 ≤ b && b ≤ 70)

/-- `input` の一部である IPv4 アドレスの、点で区切った十進の欄を読む: 欄は四つで、どれも 255 以下、
先頭に 0 はつかない。`prev` は前のバイト、`val` と `digits` はそこまでの欄、`dots` はそこま
での点。 -/
def ipv4Fields (input : List Nat) :
    List Nat → Option Nat → Nat → Nat → Nat → Except AddressError Unit
  | [], _, _, _, dots =>
    if dots < 3 then .error ⟨input, "IPv4 address too short", []⟩ else .ok ()
  | c :: r, prev, val, digits, dots =>
    if 48 ≤ c && c ≤ 57 then
      if digits == 1 && val == 0 then .error ⟨input, "IPv4 field has octet with leading zero", []⟩
      else
        let v := val * 10 + (c - 48)
        if v > 255 then .error ⟨input, "IPv4 field has value >255", []⟩
        else ipv4Fields input r (some c) v (digits + 1) dots
    else if c == 46 then
      if prev.isNone || r.isEmpty || prev == some 46 then
        .error ⟨input, "IPv4 field must have at least one digit", c :: r⟩
      else if dots == 3 then .error ⟨input, "IPv4 address too long", []⟩
      else ipv4Fields input r (some c) 0 0 (dots + 1)
    else .error ⟨input, "unexpected character", c :: r⟩

/-- 組の先頭にある十六進の数字の数と、その後に続くもの。五つ目の数字は、組 `group`
の全体を指す誤り。 -/
def hexGroup (input group : List Nat) : Nat → List Nat → Except AddressError (Nat × List Nat)
  | n, [] => .ok (n, [])
  | n, c :: r =>
    if isHexByte c then
      if n ≥ 4 then .error ⟨input, "each group must have 4 or less digits", group⟩
      else hexGroup input group (n + 1) r
    else .ok (n, c :: r)

/-- IPv6 アドレスの組を、埋まったのが十六バイト未満の間 `s` から読む: `filled`
はそこまでに埋まったバイト、`::` に会ったかどうか。残り、埋まったバイト、`::` に会ったかを返す。 -/
def ipv6Groups (input : List Nat) :
    Nat → List Nat → Nat → Bool → Except AddressError (List Nat × Nat × Bool)
  | 0, s, filled, ellipsis => .ok (s, filled, ellipsis)
  | fuel + 1, s, filled, ellipsis =>
    if filled ≥ 16 then .ok (s, filled, ellipsis)
    else do
      let (digits, after) ← hexGroup input s 0 s
      if digits == 0 then
        throw ⟨input, "each colon-separated field must have at least one digit", s⟩
      if after.head? == some 46 then
        if !ellipsis && filled != 12 then
          throw ⟨input, "embedded IPv4 address must replace the final 2 fields of the address", s⟩
        if filled + 4 > 16 then
          throw ⟨input, "too many hex fields to fit an embedded IPv4 at the end of the address", s⟩
        ipv4Fields input s none 0 0 0
        return ([], filled + 4, ellipsis)
      let filled := filled + 2
      match after with
      | [] => return ([], filled, ellipsis)
      | c :: r =>
        if c != 58 then throw ⟨input, "unexpected character, want colon", after⟩
        match r with
        | [] => throw ⟨input, "colon must be followed by more characters", after⟩
        | 58 :: r' =>
          if ellipsis then throw ⟨input, "multiple :: in address", r⟩
          if r'.isEmpty then return ([], filled, true)
          ipv6Groups input fuel r' filled true
        | r => ipv6Groups input fuel r filled ellipsis

/-- `%` の後の区域をつけてもよい IPv6 アドレスを読む。 -/
def parseIPv6 (input : List Nat) : Except AddressError AddressFamily := do
  let s := input.takeWhile (· != 37)
  if input.contains 37 && (input.dropWhile (· != 37)).length == 1 then
    throw ⟨input, "zone must be a non-empty string", []⟩
  let (s, ellipsis) := match s with
    | 58 :: 58 :: r => (r, true)
    | s => (s, false)
  if ellipsis && s.isEmpty then return .v6
  let (rest, filled, ellipsis) ← ipv6Groups input 9 s 0 ellipsis
  if !rest.isEmpty then throw ⟨input, "trailing garbage after address", rest⟩
  if filled < 16 then
    if !ellipsis then throw ⟨input, "address string too short", []⟩
  else if ellipsis then
    throw ⟨input, "the :: must expand to at least one field of zeros", []⟩
  return .v6

/-- IP アドレスを読む: 最初の `.`、`:`、`%` で、IPv4、IPv6、アドレスのない区域のどれかが決まる。 -/
def parseAddress (input : List Nat) : Except AddressError AddressFamily :=
  match input.find? fun c => c == 46 || c == 58 || c == 37 with
  | some 46 => (ipv4Fields input input none 0 0 0).map fun _ => .v4
  | some 58 => parseIPv6 input
  | some _ => .error ⟨input, "missing IPv6 address", []⟩
  | none => .error ⟨input, "unable to parse IP", []⟩

end HttpCaching.Http
