import HttpCaching.Sql.Syntax
/-!
# 文を読む道具

字句の列を左から読む。読み手の状態 `Cursor` は字句の列と今の位置、文の元のバイト (式の
書かれた文字列を切り出すため)、変数に振った番号を持つ。

* 文法に合わない字句に当たれば、その字句を示す `near "…": syntax error`。字句が尽きて
  いれば `incomplete input`、読めない字句なら `unrecognized token: "…"`。
* 名前になれるのは、予約語でない語、引用された名前、そして自分としては立てない場所の
  一部の予約語 (`fallbackKeywords`)。文字列と結合の語も、名前の場所では名前になる。
* `WINDOW`・`OVER`・`FILTER` は、窓の定義や窓関数の続きに見える並びの中でだけ予約語で、
  ほかでは名前になる。
* 変数の番号は現れた順に振る。`?` は次の番号、`?NNN` はその番号 (1 から 32766)、名前の
  ある変数は同じ名前なら同じ番号を使う。番号の名前は、その番号に最初に付いたもの。
-/
namespace HttpCaching.Sql

/-- 文が読めないわけ。 -/
inductive ParseError where
  /-- 文法がそこで許さない字句。そのバイトで。 -/
  | near (raw : List Nat)
  | incomplete
  | unrecognized (raw : List Nat)
  | message (text : String)
  deriving Inhabited, Repr

/-- 読み取りの失敗の文。 -/
def ParseError.text : ParseError → String
  | .near raw => "near \"" ++ Text.ofUtf8 raw ++ "\": syntax error"
  | .incomplete => "incomplete input"
  | .unrecognized raw => "unrecognized token: \"" ++ Text.ofUtf8 raw ++ "\""
  | .message t => t

/-- 読み取りの位置: 字句、次のものの位置、テキストのバイト、そこまでに与えた最も大きい
パラメーターの枠、枠に与えた名前。 -/
structure Cursor where
  tokens : Array Token
  pos : Nat
  source : Array Nat
  slots : Nat
  slotNames : List (String × Nat)
  deriving Inhabited

/-- 失敗することのある読み取り。 -/
abbrev Parse := EStateM ParseError Cursor

namespace Token

/-- 字句が識別子として立てるかどうか: 語か引用符の名前、または名前に戻るキーワード。 -/
def isId (t : Token) : Bool :=
  match t.kind with
  | .bare | .doubleQuoted | .quotedName => true
  | .keyword w => fallbackKeywords.contains w || w == "INDEXED"
  | _ => false

/-- 別名や型の名前のように、字句が識別子か文字列として立てるかどうか。`INDEXED` は立てない。 -/
def isIds (t : Token) : Bool := (t.isId && !t.isKeyword "INDEXED") || t.kind == .string

/-- 字句がつなぎ方のキーワードかどうか。 -/
def isJoinWord (t : Token) : Bool :=
  match t.kind with
  | .keyword w => joinKeywords.contains w
  | _ => false

/-- 字句が名前として立てるかどうか: 識別子、文字列、またはつなぎの語。 -/
def isNm (t : Token) : Bool := t.isId || t.kind == .string || t.isJoinWord

/-- 字句がキーワード `LIKE`、`GLOB`、`REGEXP`、`MATCH` のどれかかどうか。 -/
def likeWord? (t : Token) : Option String :=
  match t.kind with
  | .keyword w => if ["LIKE", "GLOB", "REGEXP", "MATCH"].contains w then some w else none
  | _ => none

/-- 字句が表す名前: 引用符を除いたもの。 -/
def name (t : Token) : Name :=
  match t.kind with
  | .doubleQuoted => ⟨Text.ofUtf8 (dequote t.raw), true⟩
  | .quotedName | .string => ⟨Text.ofUtf8 (dequote t.raw), false⟩
  | _ => ⟨Text.ofUtf8 t.raw, false⟩

/-- 字句が `TEMP` か `TEMPORARY` かどうか。 -/
def isTemp (t : Token) : Bool := t.isKeyword "TEMP" || t.isKeyword "TEMPORARY"

end Token

/-- ウィンドウの語を見る所で、その位置の字句が識別子として読めるかどうか。 -/
def identLike (ts : Array Token) (i : Nat) : Bool :=
  match ts[i]? with
  | some t => t.isNm || t.isKeyword "WINDOW" || t.isKeyword "OVER"
  | none => false

/-- `WINDOW`、`OVER`、`FILTER` を名前に変える。ただしウィンドウの定義 (`WINDOW name AS`)、
ウィンドウ (`) OVER (` か `) OVER name`)、フィルター (`) FILTER (`) を始める所は除く。 -/
def classifyWindowWords (ts : Array Token) : Array Token :=
  ts.toList.zipIdx.toArray.map fun (t, i) =>
    let prevClose := i > 0 && (ts[i - 1]?.any (·.isOp ")"))
    let nextOpen := ts[i + 1]?.any (·.isOp "(")
    let keep :=
      if t.isKeyword "WINDOW" then identLike ts (i + 1) && (ts[i + 2]?.any (·.isKeyword "AS"))
      else if t.isKeyword "OVER" then prevClose && (nextOpen || identLike ts (i + 1))
      else if t.isKeyword "FILTER" then prevClose && nextOpen
      else true
    if keep then t else { t with kind := .bare }

/-- テキストを読み始めるところ。 -/
def Cursor.ofText (text : List Nat) : Cursor :=
  ⟨classifyWindowWords (tokenize text).toArray, 0, text.toArray, 0, []⟩

namespace Parse

/-- 今の位置の字句。終わりではなし。 -/
def current : Parse (Option Token) := do
  let c ← get
  return c.tokens[c.pos]?

/-- 今の字句から `k` 先の字句。 -/
def ahead (k : Nat) : Parse (Option Token) := do
  let c ← get
  return c.tokens[c.pos + k]?

/-- 今の字句を過ぎる。 -/
def advance : Parse Unit := modify fun c => { c with pos := c.pos + 1 }

/-- 今の字句で失敗する。 -/
def failHere {α : Type} : Parse α := do
  match ← current with
  | none => throw .incomplete
  | some t => throw (if t.kind == .illegal then .unrecognized t.raw else .near t.raw)

/-- 文とともに失敗する。 -/
def failWith {α : Type} (text : String) : Parse α := throw (.message text)

/-- 今の字句が試しを通るかどうか。 -/
def check (p : Token → Bool) : Parse Bool := do
  return (← current).any p

/-- 今の字句がこのキーワードかどうか。 -/
def atKw (w : String) : Parse Bool := check (·.isKeyword w)

/-- 今の字句がこの演算子かどうか。 -/
def atOp (o : String) : Parse Bool := check (·.isOp o)

/-- 今の字句がこのキーワードなら、それを過ぎる。 -/
def eatKw (w : String) : Parse Bool := do
  if ← atKw w then advance; return true
  return false

/-- 今の字句がこの演算子なら、それを過ぎる。 -/
def eatOp (o : String) : Parse Bool := do
  if ← atOp o then advance; return true
  return false

/-- このキーワードを過ぎる。なければ失敗する。 -/
def expectKw (w : String) : Parse Unit := do
  if ← eatKw w then return
  failHere

/-- この演算子を過ぎる。なければ失敗する。 -/
def expectOp (o : String) : Parse Unit := do
  if ← eatOp o then return
  failHere

/-- 試しを通る字句を読む。なければ失敗する。 -/
def take (p : Token → Bool) : Parse Token := do
  match ← current with
  | some t => if p t then advance; return t else failHere
  | none => failHere

/-- 名前を読む。 -/
def nm : Parse Name := do return (← take Token.isNm).name

/-- 識別子か文字列を読む。 -/
def ids : Parse Name := do return (← take Token.isIds).name

/-- 識別子を読む。 -/
def ident : Parse Name := do return (← take Token.isId).name

/-- 前にスキーマのあってもよい名前を読む: `name` か `schema.name`。 -/
def qualifiedName : Parse (Option Name × Name) := do
  let first ← nm
  if ← eatOp "." then
    let second ← nm
    return (some first, second)
  return (none, first)

/-- 今の字句が始まるテキストの中の位置、またはテキストの終わり。 -/
def here : Parse Nat := do
  let c ← get
  match c.tokens[c.pos]? with
  | some t => return t.start
  | none => return c.source.size

/-- 今の字句の前の字句のすぐ後の、テキストの中の位置。 -/
def lastStop : Parse Nat := do
  let c ← get
  match c.tokens[c.pos - 1]? with
  | some t => if c.pos > 0 then return t.stop else return 0
  | none => return 0

/-- 二つの位置の間のテキストのバイト。 -/
def span (a b : Nat) : Parse (List Nat) := do
  let c ← get
  return (c.source.extract a b).toList

/-- 二つの位置の間のテキスト。両端の空白を除いて。 -/
def spanText (a b : Nat) : Parse String := do
  let bs ← span a b
  let trimmed := ((bs.dropWhile isSpaceByte).reverse.dropWhile isSpaceByte).reverse
  return Text.ofUtf8 trimmed

/-- パラメーターが持てる最も大きい枠の番号。 -/
def slotLimit : Nat := 32766

/-- パラメーターの字句に枠を与える: `?` には次の枠、`?NNN` にはその番号、
名前つきのものにはその名前の枠か次の枠。 -/
def assignSlot (t : Token) : Parse Nat := do
  let c ← get
  let text := Text.ofUtf8 t.raw
  match t.raw with
  | [63] =>
    set { c with slots := c.slots + 1 }
    return c.slots + 1
  | 63 :: digits =>
    let n := digits.foldl (fun n b => 10 * n + (b - 48)) 0
    if digits.length > 18 || n < 1 || n > slotLimit then
      failWith ("variable number must be between ?1 and ?" ++ toString slotLimit)
    let named := c.slotNames.any (·.2 == n)
    set { c with slots := max c.slots n,
                 slotNames := if named then c.slotNames else c.slotNames ++ [(text, n)] }
    return n
  | _ =>
    match c.slotNames.lookup text with
    | some n => return n
    | none =>
      set { c with slots := c.slots + 1, slotNames := c.slotNames ++ [(text, c.slots + 1)] }
      return c.slots + 1

/-- `p` が読む項目を、コンマで区切って、高々 `fuel` 個読む。 -/
def commaList {α : Type} (p : Parse α) : Nat → Parse (List α)
  | 0 => failWith "parser stack overflow"
  | fuel + 1 => do
    let a ← p
    if ← eatOp "," then return a :: (← commaList p fuel)
    return [a]

/-- 試しを通る間字句を過ぎる。高々 `fuel` 個。 -/
def skipWhile (p : Token → Bool) : Nat → Parse Unit
  | 0 => pure ()
  | fuel + 1 => do
    if ← check p then
      advance
      skipWhile p fuel

/-- 開き括弧を読んだ括弧の組を、その閉じ括弧まで過ぎる。 -/
def skipGroup : Nat → Nat → Parse Unit
  | 0, _ => failWith "parser stack overflow"
  | fuel + 1, depth => do
    match ← current with
    | none => failHere
    | some t =>
      advance
      if t.isOp "(" then skipGroup fuel (depth + 1)
      else if t.isOp ")" then
        if depth == 0 then return
        skipGroup fuel (depth - 1)
      else skipGroup fuel depth

/-- テキストを読むのに要る燃料: 字句ごとに数歩。 -/
def fuelFor (c : Cursor) : Nat := 4 * c.tokens.size + 16

/-- 型の大きさの符号つきの数を読む: あってもよい `+` か `-`、それから数。 -/
def signedNumber : Parse Unit := do
  if !(← eatOp "+") then
    let _ ← eatOp "-"
  let _ ← take fun t => t.kind == .integer || t.kind == .float

/-- 型の名前を読む: 語か文字列、それからあってもよい括弧の中の一つか二つの符号つきの数。
書いたとおりのテキストを、引用符を外して与え、なければ空のテキスト。列の定義の中では `GENERATED`
が型を終える。 -/
def typeName (inColumn : Bool) : Parse String := do
  let isTypeWord (t : Token) : Bool := t.isIds && !(inColumn && t.isKeyword "GENERATED")
  if !(← check isTypeWord) then return ""
  let start ← here
  let c ← get
  skipWhile isTypeWord c.tokens.size
  if ← eatOp "(" then
    signedNumber
    if ← eatOp "," then signedNumber
    expectOp ")"
  let stop ← lastStop
  return Text.ofUtf8 (dequote (← span start stop))

/-- 開き括弧の後の括弧の中の名前を、それぞれにあってもよい照合順序と順とともに、
ビューか共通表の列の並びが与えるように読む。 -/
def nameList (fuel : Nat) : Parse (List Name) := do
  let names ← commaList (do
    let n ← nm
    if ← eatKw "COLLATE" then let _ ← ids
    if !(← eatKw "ASC") then let _ ← eatKw "DESC"
    return n) fuel
  expectOp ")"
  return names

/-- 開き括弧の後の括弧の中の平の名前を読む。 -/
def idList (fuel : Nat) : Parse (List Name) := do
  let names ← commaList nm fuel
  expectOp ")"
  return names

end Parse

end HttpCaching.Sql
