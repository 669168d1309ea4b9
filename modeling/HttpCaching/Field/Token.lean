/-!
# トークンと引用符付き文字列

RFC 9110 §5.6.2 のトークン、§5.6.4 の quoted-string、制御文字の判定。
`quote` は `"` と `\` だけをエスケープし、`unquote` はそれを戻す。
引数を書き出すとき、空でないトークンはそのまま、それ以外は引用符で囲む。
-/
namespace HttpCaching.Field

/-- トークンの文字: ASCII の英字か数字、または ``!#$%&'*+-.^_`|~`` のどれか。 -/
def isTokenChar (c : Char) : Bool :=
  ('a' ≤ c && c ≤ 'z') || ('A' ≤ c && c ≤ 'Z') || ('0' ≤ c && c ≤ '9') ||
    "!#$%&'*+-.^_`|~".toList.contains c

/-- トークンは、トークンの文字だけの空でないテキスト。 -/
def isToken (s : String) : Bool :=
  !s.isEmpty && s.toList.all isTokenChar

/-- 引用符で囲んだ文字列に入れられない文字: HTAB 以外の C0 制御文字と DEL。 -/
def isControl (c : Char) : Bool :=
  (c.toNat < 0x20 && c != '\t') || c.toNat == 0x7F

/-- 引用符で囲んだ文字列に入れられない文字をテキストが持つかどうか。 -/
def hasControl (s : String) : Bool := s.toList.any isControl

/-- 引用符で囲んだ文字列の形: `"` と `\` にはバックスラッシュを付け、ほかはそのまま。 -/
def quoteChars : List Char → List Char
  | [] => []
  | c :: r => if c == '"' || c == '\\' then '\\' :: c :: quoteChars r else c :: quoteChars r

/-- テキストを引用符で囲んだ文字列の形。引用符を含む。 -/
def quote (s : String) : String :=
  String.ofList ('"' :: quoteChars s.toList ++ ['"'])

/-- トークンならそのテキスト、トークンでなければ (空のテキストも) 引用符で囲んだ形。 -/
def tokenOrQuoted (s : String) : String :=
  if isToken s then s else quote s

/-- 引用符で囲んだ文字列の、開く引用符の後の中身を読む: バックスラッシュは次の文字をそのままとり、
最後に一つ残ったバックスラッシュは落とし、エスケープされていない次の引用符か終わりで止まる。 -/
def unquoteChars : List Char → List Char
  | [] => []
  | ['\\'] => []
  | '\\' :: c :: r => c :: unquoteChars r
  | '"' :: _ => []
  | c :: r => c :: unquoteChars r

/-- 引用符で囲んだ文字列のテキスト。引用符で始まらないテキストはそのまま。 -/
def unquote (s : String) : String :=
  match s.toList with
  | '"' :: r => String.ofList (unquoteChars r)
  | _ => s

end HttpCaching.Field
