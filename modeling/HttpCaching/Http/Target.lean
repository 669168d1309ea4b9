import HttpCaching.Http.Message
import HttpCaching.Http.Address
import HttpCaching.Text.Literal
/-!
# 要求の対象と問い合わせ

要求の対象 (URL) からパスと問い合わせ文字列を取り出す。`#` の後は断片で、その `%XX` も
確かめる。スキームがあればその後の `//` から権限部 (利用者情報とホスト) を読む。
`[` で始まるホストは `]` で閉じた IPv6 アドレスでなければならず、ホストの `%XX` は
ASCII でないバイトか `%25` に限る。パスの `%XX` はバイトに復号し、壊れた `%` は誤り。
問い合わせは `&` で区切った `名前=値` の列で、`+` は空白、`;` を含む組と復号できない組は
捨てる。名前と値もバイト列で比べる。
-/
namespace HttpCaching.Http

/-- URL が読めなかったわけ。 -/
inductive UrlError where
  /-- 壊れた `%` のエスケープ: その最初の三バイト (終わりならそれより少ない)。 -/
  | badEscape (bytes : List Nat)
  /-- ホストが持てない文字。 -/
  | badHostChar (byte : Nat)
  /-- ほかの問題。その文で。 -/
  | other (text : String)

/-- URL の問題の文。 -/
def UrlError.text : UrlError → String
  | .badEscape bs => "invalid URL escape " ++ Text.quoteOctets bs
  | .badHostChar b => "invalid character " ++ Text.quoteOctets [b] ++ " in host name"
  | .other t => t

/-- 要求を作れなかったわけ。 -/
inductive RequestError where
  /-- 方法がトークンでない。 -/
  | badMethod (method : String)
  /-- 対象が読めなかった: 見せるテキストと問題。 -/
  | badTarget (target : String) (problem : UrlError)

/-- 要求の失敗の文。 -/
def RequestError.message : RequestError → String
  | .badMethod m => "net/http: invalid method " ++ Text.quoteLiteral m
  | .badTarget t e => "parse " ++ Text.quoteLiteral t ++ ": " ++ e.text

/-- 十六進の数字 (バイトで与える) の値。 -/
def hexValue? (b : Nat) : Option Nat :=
  if 48 ≤ b && b ≤ 57 then some (b - 48)
  else if 97 ≤ b && b ≤ 102 then some (b - 87)
  else if 65 ≤ b && b ≤ 70 then some (b - 55)
  else none

/-- URL の部分。エスケープが何を表してよいかが部分ごとに違う。 -/
inductive UrlPart where
  | path
  | query
  | host
  | zone
  | userinfo
  | fragment
  deriving DecidableEq

/-- ASCII のバイトがホストにそのまま立ってよいかどうか: 英字、数字、`-._~`、下位の区切り文字、
`:[]<>"`。 -/
def hostByteAllowed (b : Nat) : Bool :=
  (48 ≤ b && b ≤ 57) || (65 ≤ b && b ≤ 90) || (97 ≤ b && b ≤ 122) ||
    (Text.bytesOf "-_.~!$&()*+,;=:[]<>\"").contains b || b == 39

/-- 部分の `%XX` のエスケープをバイトに戻す (問い合わせでは `+` を空白にも)。
ホストがエスケープしてよいのは ASCII の外のバイトと `%25` だけ、区域はホストが持てないもの以外何でも
よく、ホストと区域はエスケープの要るほかの ASCII のバイトを持たない。 -/
def unescapeOctets (part : UrlPart) : List Nat → Except UrlError (List Nat)
  | [] => .ok []
  | 37 :: r =>
    match r with
    | a :: b :: rest =>
      match hexValue? a, hexValue? b with
      | some x, some y =>
        let v := 16 * x + y
        if part == .host && x < 8 && v != 37 then .error (.badEscape [37, a, b])
        else if part == .zone && v != 37 && v != 32 && !(v < 128 && hostByteAllowed v) then
          .error (.badEscape [37, a, b])
        else (v :: ·) <$> unescapeOctets part rest
      | _, _ => .error (.badEscape [37, a, b])
    | _ => .error (.badEscape (37 :: r))
  | c :: r =>
    if (part == .host || part == .zone) && c < 128 && !hostByteAllowed c then
      .error (.badHostChar c)
    else
      let c' := if part == .query && c == 43 then 32 else c
      (c' :: ·) <$> unescapeOctets part r

/-- 英字で始まり英字・数字・`+`・`-`・`.` が続くテキストなら、最初の `:` の前のスキーム。
スキームがなければ `none`、先頭の `:` は誤り。 -/
def schemeOf (cs : List Char) : Except UrlError (Option (List Char × List Char)) :=
  let rec go (i : Nat) (acc : List Char) : List Char →
      Except UrlError (Option (List Char × List Char))
    | [] => .ok none
    | c :: r =>
      if c.isAlpha then go (i + 1) (c :: acc) r
      else if c.isDigit || c == '+' || c == '-' || c == '.' then
        if i == 0 then .ok none else go (i + 1) (c :: acc) r
      else if c == ':' then
        if i == 0 then .error (.other "missing protocol scheme") else .ok (some (acc.reverse, r))
      else .ok none
  go 0 [] cs

/-- テキストが空か、コロンの後に数字が続くものかどうか。 -/
def validOptionalPort (cs : List Char) : Bool :=
  match cs with
  | [] => true
  | ':' :: ds => ds.all fun c => '0' ≤ c && c ≤ '9'
  | _ => false

/-- 悪いポートの問題。 -/
def badPort (port : List Char) : UrlError :=
  .other ("invalid port " ++ Text.quoteLiteral (String.ofList port) ++ " after host")

/-- 部分列が最初に現れる位置。 -/
def indexOfSub (sub : List Char) : List Char → Nat → Option Nat
  | [], _ => none
  | l@(_ :: r), i => if sub.isPrefixOf l then some i else indexOfSub sub r (i + 1)

/-- ホストを確かめる。先頭以外の `[` は退ける。`[` で始まるホストは IP リテラル: `]` で閉じ、
その後にポートがあってもよい。中の `%25` の後は区域で、エスケープがより自由。全体は IPv6
アドレスとして読めなければならない (IPv4 アドレスは退ける)。ほかのホストは名前で、
ポートがあってもよい。それからエスケープを確かめる。 -/
def checkHost (host : List Char) : Except UrlError Unit := do
  let bytes (cs : List Char) := Text.bytesOf (String.ofList cs)
  if (host.drop 1).contains '[' then throw (.other "invalid IP-literal")
  if host.head? == some '[' then
    let rev := host.reverse
    if !rev.contains ']' then throw (.other "missing ']' in host")
    let port := (rev.takeWhile (· != ']')).reverse
    if !validOptionalPort port then throw (badPort port)
    let _ ← unescapeOctets .host (bytes port)
    let inside := (host.take (host.length - port.length - 1)).drop 1
    let address ← match indexOfSub ['%', '2', '5'] inside 0 with
      | some z => do
        let a ← unescapeOctets .host (bytes (inside.take z))
        let b ← unescapeOctets .zone (bytes (inside.drop z))
        pure (a ++ b)
      | none => unescapeOctets .host (bytes inside)
    match parseAddress address with
    | .error e => throw (.other ("invalid host: " ++ e.message))
    | .ok .v4 => throw (.other "invalid IP-literal")
    | .ok .v6 => pure ()
  else
    if host.contains ':' then
      let port := ':' :: ((host.reverse.takeWhile (· != ':')).reverse)
      if !validOptionalPort port then throw (badPort port)
    let _ ← unescapeOctets .host (bytes host)

/-- 利用者の情報が英字、数字、`-._:~!$&'()*+,;=%@` だけを持つかどうか。 -/
def validUserinfo (cs : List Char) : Bool :=
  cs.all fun c => c.isAlphanum || "-._:~!$&()*+,;=%@".toList.contains c || c.toNat == 39

/-- 権限を確かめる: 最後の `@` の前の利用者の情報、それからホスト。 -/
def checkAuthority (auth : List Char) : Except UrlError Unit := do
  let host := (auth.reverse.takeWhile (· != '@')).reverse
  checkHost host
  if auth.contains '@' then
    let user := auth.take (auth.length - host.length - 1)
    if !validUserinfo user then throw (.other "net/url: invalid userinfo")
    let name := user.takeWhile (· != ':')
    let _ ← unescapeOctets .userinfo (Text.bytesOf (String.ofList name))
    if user.contains ':' then
      let password := (user.dropWhile (· != ':')).drop 1
      let _ ← unescapeOctets .userinfo (Text.bytesOf (String.ofList password))

/-- 断片のない URL を、復号したパスと生の問い合わせに読む。 -/
def parseUrl (cs : List Char) : Except UrlError Target := do
  if cs.any fun c => c.toNat < 0x20 || c.toNat == 0x7F then
    throw (.other "net/url: invalid control character in URL")
  if cs == ['*'] then return ⟨Text.bytesOf "*", ""⟩
  let (scheme, rest) ← match ← schemeOf cs with
    | some (s, r) => pure (s, r)
    | none => pure ([], cs)
  let (rest, query) :=
    if rest.getLast? == some '?' && rest.count '?' == 1 then (rest.dropLast, [])
    else (rest.takeWhile (· != '?'), (rest.dropWhile (· != '?')).drop 1)
  if rest.head? != some '/' then
    if !scheme.isEmpty then return ⟨[], String.ofList query⟩
    if (rest.takeWhile (· != '/')).contains ':' then
      throw (.other "first path segment in URL cannot contain colon")
  let path ←
    if rest.take 2 == ['/', '/'] && (!scheme.isEmpty || rest.take 3 != ['/', '/', '/']) then
      checkAuthority ((rest.drop 2).takeWhile (· != '/'))
      pure ((rest.drop 2).dropWhile (· != '/'))
    else pure rest
  let p ← unescapeOctets .path (Text.bytesOf (String.ofList path))
  return ⟨p, String.ofList query⟩

/-- 要求を作る: 空の方法は GET、方法はトークンでなければならない。対象の `#`
の後の断片のエスケープは正しくなければならない。 -/
def Request.make (method target : String) (header : Header) : Except RequestError Request :=
  let m := if method.isEmpty then "GET" else method
  if !m.toList.all Field.isTokenChar then .error (.badMethod m)
  else
    let cs := target.toList
    let beforeHash := cs.takeWhile (· != '#')
    match parseUrl beforeHash with
    | .error e => .error (.badTarget (String.ofList beforeHash) e)
    | .ok t =>
      let fragment := (cs.dropWhile (· != '#')).drop 1
      match unescapeOctets .fragment (Text.bytesOf (String.ofList fragment)) with
      | .error e => .error (.badTarget target e)
      | .ok _ => .ok ⟨m, t, header⟩

/-- 問い合わせの名前と値の組をバイトで、順に。`;` を含む組とエスケープの壊れた組は落とす。 -/
def queryPairs (raw : String) : List (List Nat × List Nat) :=
  let pieces := (raw.splitOn "&").filter (!·.isEmpty)
  pieces.filterMap fun piece =>
    if piece.toList.contains ';' then none
    else
      let cs := piece.toList
      let k := String.ofList (cs.takeWhile (· != '='))
      let v := String.ofList ((cs.dropWhile (· != '=')).drop 1)
      match unescapeOctets .query (Text.bytesOf k), unescapeOctets .query (Text.bytesOf v) with
      | .ok k', .ok v' => some (k', v')
      | _, _ => none

/-- 問い合わせに名前があるかどうか。 -/
def Target.hasParam (t : Target) (name : List Nat) : Bool :=
  (queryPairs t.rawQuery).any (·.1 == name)

/-- 問い合わせでの名前の最初の値 (なければ空の値) が与えたバイトかどうか。 -/
def Target.paramIs (t : Target) (name value : List Nat) : Bool :=
  ((((queryPairs t.rawQuery).find? (·.1 == name)).map (·.2)).getD []) == value

/-- 復号したパスが与えたバイトかどうか。 -/
def Target.pathIs (t : Target) (p : List Nat) : Bool := t.pathOctets == p

/-- 復号したパスが与えたバイトで始まるかどうか。 -/
def Target.pathStartsWith (t : Target) (p : List Nat) : Bool := p.isPrefixOf t.pathOctets

end HttpCaching.Http
