import HttpCaching.Yaml.Token
import HttpCaching.Text.Utf8
/-!
# YAML の字句解析

文字列を字句の列に分ける。ブロックの入れ子は桁で決まり、桁が深くなれば開始の字句を、
浅くなれば終わりの字句を出す。`key: value` の `key` は「単純キー」で、`:` を見つけた時点で
その前に `key` の字句を差し込む。単純キーは一行に収まらなければならず、ブロックの現在の
桁から始まるものは必ずキーでなければならない。単純キーが古くなった (行が変わった、または
1024 文字を超えた) かは、`:` を見たとき、同じ階層に次のキーが来たとき、読み手がその字句に
達したときにだけ確かめる。入れ子はフローでもブロックでも 10000 段まで。

本文は 512 バイトずつ読み込まれ、YAML が持てない文字は、それを含む塊が初めて要る時点で
問題になる。問題を見つけたら、そこまでの字句と問題を返す。読み手との関係のために、取り出し
の一歩ごとの字句の数と位置、単純キーの候補がいつからいつまで有効だったかも記録する。
読み手は字句を順に受け取る。ある字句を渡せるのは、その後に二つの字句があり、その字句から
始まる単純キーの候補がまだキーになりうる状態でなくなったときで、それまで取り出しを進める。
渡せない最初の字句とそのときの問題が `Scan.barrier` になる。
-/
namespace HttpCaching.Yaml

/-- 単純キーが始まりうる場所。`life` は `Scanner.lives` の中のその記録の番号。 -/
structure SimpleKey where
  possible : Bool
  required : Bool
  tokenNumber : Nat
  mark : Mark
  life : Nat
  deriving Inhabited

/-- ありうる単純キーの記録: それが始めるはずの字句の番号、位置、キーでなければならないかどうか、
それがありえた最初の歩 (`born`) と最後の歩 (`ended`)。 -/
structure KeyLife where
  number : Nat
  mark : Mark
  required : Bool
  born : Nat
  ended : Option Nat
  deriving Inhabited

/-- `k` の単純キーが位置 `m` ではもうありえないかどうか: 別の行か、1024 文字より遠い。 -/
def Mark.staleAt (k m : Mark) : Bool :=
  k.line < m.line || k.index + 1024 < m.index

/-- フローの集まりの入れ子と、ブロックの字下げの段の最も深いもの。 -/
def maxDepth : Nat := 10000

/-- YAML の文字列が持てない文字の問題。 -/
def readerProblem : Problem := ⟨none, "control characters are not allowed", ⟨0, 0, 0⟩⟩

/-- スキャナーの状態。`keys` はフローの段ごとに一つの枠を持ち、内側が先頭。`readable`
から先の文字は読めない。`step` はそこまでに取り出した字句を数え、`lives`
はありうる単純キーをすべて記録し、`newlines` は最後の空白でない文字から過ぎた改行を数える。 -/
structure Scanner where
  src : Array Char
  readable : Nat
  mark : Mark
  tokens : Array Token
  indent : Int
  indents : List Int
  keyAllowed : Bool
  keys : List SimpleKey
  flowLevel : Nat
  done : Bool
  step : Nat
  lives : Array KeyLife
  newlines : Nat
  deriving Inhabited

/-- スキャンの歩: スキャナーを変えるか、問題で止まる。 -/
abbrev ScanM := EStateM Problem Scanner

namespace Scanner

/-- `k` 文字先の文字、または終わりの文字。読める所を一つ過ぎるとスキャンは止まる。 -/
def peekAt (k : Nat) : ScanM Char := do
  let s ← get
  if s.mark.index + k ≥ s.readable then throw readerProblem
  return s.src.getD (s.mark.index + k) endChar

/-- 今の位置。 -/
def here : ScanM Mark := do return (← get).mark

/-- 今の位置で問題とともに止まる。 -/
def fail (context : Option (String × Mark)) (problem : String) : ScanM α := do
  throw ⟨context, problem, (← get).mark⟩

/-- 改行でない文字を一つ過ぎる。 -/
def skip : ScanM Unit :=
  modify fun s =>
    { s with mark := ⟨s.mark.index + 1, s.mark.line, s.mark.column + 1⟩,
             newlines := if isBlank (s.src.getD s.mark.index endChar) then s.newlines else 0 }

/-- 改行を過ぎる。CR LF は一つと数える。 -/
def skipLine : ScanM Unit := do
  let c ← peekAt 0
  let d ← peekAt 1
  if c == '\r' && d == '\n' then
    modify fun s => { s with mark := ⟨s.mark.index + 2, s.mark.line + 1, 0⟩,
                             newlines := s.newlines + 1 }
  else if isBreak c then
    modify fun s => { s with mark := ⟨s.mark.index + 1, s.mark.line + 1, 0⟩,
                             newlines := s.newlines + 1 }

/-- 文字を一つとる。 -/
def take : ScanM Char := do
  let c ← peekAt 0
  skip
  return c

/-- 改行を正規化してとる: CR LF、CR、LF、NEL は LF と読む。 -/
def takeLine : ScanM (List Char) := do
  let c ← peekAt 0
  if c == '\r' || c == '\n' || c.toNat == 0x85 then
    skipLine
    return ['\n']
  else if isBreak c then
    skipLine
    return [c]
  else return []

/-- 字句を後に足す。 -/
def emit (k : TokenKind) (start stop : Mark) : ScanM Unit :=
  modify fun s => { s with tokens := s.tokens.push ⟨k, start, stop⟩ }

/-- 番号 `n` の字句の前に字句を差し込む。 -/
def insertAt (n : Nat) (t : Token) : ScanM Unit :=
  modify fun s => { s with tokens := s.tokens.insertIdxIfInBounds n t }

/-- 列が今の字下げより深いとき、ブロックの集まりを開く。始まりの字句は、`number`
が与えられれば字句 `number` の前に、なければ末尾に置く。 -/
def rollIndent (column : Nat) (number : Option Nat) (kind : TokenKind) (m : Mark) :
    ScanM Unit := do
  let s ← get
  if s.flowLevel == 0 && s.indent < column then
    set { s with indents := s.indent :: s.indents, indent := column }
    if s.indents.length + 1 > maxDepth then
      let m := match s.keys with
        | k :: _ => k.mark
        | [] => s.mark
      fail (some ("while increasing indent level", m)) "exceeded max depth of 10000"
    match number with
    | some n => insertAt n ⟨kind, m, m⟩
    | none => emit kind m m

/-- 列より深いブロックの集まりを閉じる。 -/
def unrollIndent (column : Int) : ScanM Unit := do
  let s ← get
  if s.flowLevel == 0 then
    for _ in [0:s.indents.length + 1] do
      let s ← get
      if s.indent > column then
        emit .blockEnd s.mark s.mark
        match s.indents with
        | i :: rest => modify fun s => { s with indent := i, indents := rest }
        | [] => modify fun s => { s with indent := -1 }
      else break

/-- `:` に出会わなかった単純キーの問題。 -/
def keyProblem (k : SimpleKey) : ScanM α :=
  fail (some ("while scanning a simple key", k.mark)) "could not find expected ':'"

/-- 今の段のありうる単純キーを、その記録でも、あきらめたものとする。 -/
def dropSimpleKey : ScanM Unit :=
  modify fun s => match s.keys with
    | k :: rest =>
      { s with keys := { k with possible := false } :: rest,
               lives := s.lives.modify k.life fun l => { l with ended := some s.step } }
    | [] => s

/-- 今の段のありうる単純キーをあきらめる。必須のものなら、古くなっていてもいなくても問題。 -/
def removeSimpleKey : ScanM Unit := do
  let s ← get
  match s.keys with
  | k :: _ =>
    if k.possible then
      if k.required then keyProblem k
      dropSimpleKey
  | [] => pure ()

/-- ここで単純キーが始まりうることを記録する。 -/
def saveSimpleKey : ScanM Unit := do
  let s ← get
  if s.keyAllowed then
    let required := s.flowLevel == 0 && s.indent == s.mark.column
    removeSimpleKey
    modify fun s =>
      let k : SimpleKey := ⟨true, required, s.tokens.size, s.mark, s.lives.size⟩
      { s with keys := (match s.keys with
                 | _ :: rest => k :: rest
                 | [] => [k]),
               lives := s.lives.push ⟨s.tokens.size, s.mark, required, s.step, none⟩ }

/-- `k` 文字先の文字、または読めなければ何もなし: 注釈を先に見るときは、そこで問題なしに止まる。 -/
def peekSoft (k : Nat) : ScanM (Option Char) := do
  let s ← get
  if s.mark.index + k ≥ s.readable then return none
  return some (s.src.getD (s.mark.index + k) endChar)

/-- 注釈を探して見る最も遠いところ。 -/
def commentReach : Nat := 512

/-- 注釈の残りを、その改行まで過ぎる。 -/
def restOfLine : ScanM Unit := do
  let bound := (← get).src.size + 2
  for _ in [0:bound] do
    if isBreakZ (← peekAt 0) then break
    skip

/-- 最初の `k` 文字を過ぎる。それらは空白と改行。 -/
def skipAhead (k : Nat) : ScanM Unit := do
  let stop := (← here).index + k
  for _ in [0:k] do
    if (← here).index ≥ stop then break
    if isBreak (← peekAt 0) then skipLine else skip

/-- 場所 `k` からの空白が `#` で終わる位置。`commentReach` の内で。 -/
def blanksToComment (k : Nat) : ScanM (Option Nat) := do
  let mut pos := k
  for _ in [k:commentReach] do
    match ← peekSoft pos with
    | some c =>
      if isBlank c then pos := pos + 1
      else return if c == '#' then some pos else none
    | none => return none
  return none

/-- 字句の後、その行の残りの注釈は、その前の空白とタブとともに過ぎる。
字句の最後の空白でない文字の後に改行が来たときは過ぎない。 -/
def lineComment : ScanM Unit := do
  if (← get).newlines > 0 then return
  match ← blanksToComment 0 with
  | some k =>
    skipAhead k
    restOfLine
  | none => pure ()

/-- 今の改行の後の次の注釈の行が始まる位置。その前に空白と改行 (CR と LF) だけがあり、この改行から
`commentReach` の内にあるとき。 -/
def nextCommentLine : ScanM (Option Nat) := do
  let first ← peekSoft 0
  -- 二バイト以上の改行の後は、その続きのバイトで見るのをやめる
  if first.any fun c => isBreak c && c != '\r' && c != '\n' then return none
  let mut pos := 1
  for _ in [1:commentReach] do
    match ← peekSoft pos with
    | some c =>
      if isBlank c || c == '\r' || c == '\n' then pos := pos + 1
      else return if c == '#' then some pos else none
    | none => return none
  return none

/-- 字句が始まりうる所で始まる注釈: それを過ぎ、その後の、前に空白・タブ・空行しかない注釈の行も
すべて過ぎる。 -/
def comments : ScanM Unit := do
  restOfLine
  let bound := (← get).src.size + 2
  for _ in [0:bound] do
    match ← nextCommentLine with
    | some k =>
      skipAhead k
      restOfLine
    | none => break

/-- 次の字句まで、空白、注釈、改行を飛ばす。ブロックの文脈では、タブは単純キーが始まりえない所で
だけ飛ばす。 -/
def toNextToken : ScanM Unit := do
  let bound := (← get).src.size + 2
  for _ in [0:bound] do
    if (← here).column == 0 && (← peekAt 0).toNat == 0xFEFF then skip
    for _ in [0:bound] do
      let c ← peekAt 0
      let s ← get
      if c == ' ' || ((s.flowLevel > 0 || !s.keyAllowed) && c == '\t') then skip else break
    if (← peekAt 0) == '#' then comments
    if isBreak (← peekAt 0) then
      skipLine
      if (← get).flowLevel == 0 then modify fun s => { s with keyAllowed := true }
    else break

/-! ## スカラー -/

/-- スカラーの二つの切れの間の改行を折りたたむ: 一つの改行は空白になり、
それより多ければ最初のものを除いて残す。 -/
def foldBreaks (leadingBreak : List Char) (trailing : Array Char) : Array Char :=
  if leadingBreak.head? == some '\n' then
    if trailing.isEmpty then #[' '] else trailing
  else leadingBreak.toArray ++ trailing

/-- 平のスカラーを読む。今のブロックより深く字下げされている限り、何行にも続いてよい。
フローの集まりの中では `,?[]{}` のどれかの前で終わる。 -/
def scanPlain : ScanM Unit := do
  let s0 ← get
  let indent : Int := s0.indent + 1
  let start := s0.mark
  let bound := s0.src.size + 2
  let mut stop := start
  let mut text : Array Char := #[]
  let mut leadingBreak : List Char := []
  let mut trailing : Array Char := #[]
  let mut spaces : Array Char := #[]
  let mut leadingBlanks := false
  for _ in [0:bound] do
    let m ← here
    let c0 ← peekAt 0
    let c1 ← peekAt 1
    let c2 ← peekAt 2
    let c3 ← peekAt 3
    if m.column == 0 && ((c0 == '-' && c1 == '-' && c2 == '-') || (c0 == '.' && c1 == '.' && c2 == '.'))
        && isBlankZ c3 then break
    if c0 == '#' then break
    let flow := (← get).flowLevel > 0
    for _ in [0:bound] do
      let c ← peekAt 0
      if isBlankZ c then break
      let n ← peekAt 1
      if (c == ':' && isBlankZ n) ||
          (flow && (c == ',' || c == '?' || c == '[' || c == ']' || c == '{' || c == '}')) then break
      if leadingBlanks then
        text := text ++ foldBreaks leadingBreak trailing
        trailing := #[]
        leadingBreak := []
        leadingBlanks := false
      else if spaces.size > 0 then
        text := text ++ spaces
        spaces := #[]
      text := text.push (← take)
      stop ← here
    let c ← peekAt 0
    if !(isBlank c || isBreak c) then break
    for _ in [0:bound] do
      let c ← peekAt 0
      if !(isBlank c || isBreak c) then break
      if isBlank c then
        if leadingBlanks && ((← here).column : Int) < indent && c == '\t' then
          fail (some ("while scanning a plain scalar", start))
            "found a tab character that violates indentation"
        if !leadingBlanks then spaces := spaces.push (← take) else skip
      else if !leadingBlanks then
        spaces := #[]
        leadingBreak ← takeLine
        leadingBlanks := true
      else
        trailing := trailing ++ (← takeLine).toArray
    if (← get).flowLevel == 0 && ((← here).column : Int) < indent then break
  emit (.scalar (String.ofList text.toList) .plain) start stop
  if leadingBlanks then modify fun s => { s with keyAllowed := true }

/-- 十六進の数字の値。 -/
def hexValue (c : Char) : Option Nat :=
  if '0' ≤ c && c ≤ '9' then some (c.toNat - '0'.toNat)
  else if 'a' ≤ c && c ≤ 'f' then some (c.toNat - 'a'.toNat + 10)
  else if 'A' ≤ c && c ≤ 'F' then some (c.toNat - 'A'.toNat + 10)
  else none

/-- 二重引用符のスカラーの一文字のエスケープが表す文字と、その後に続く十六進の数字の数。 -/
def escapeOf (c : Char) : Option (List Char × Nat) :=
  match c with
  | '0' => some ([Char.ofNat 0], 0)
  | 'a' => some ([Char.ofNat 7], 0)
  | 'b' => some ([Char.ofNat 8], 0)
  | 't' | '\t' => some (['\t'], 0)
  | 'n' => some (['\n'], 0)
  | 'v' => some ([Char.ofNat 11], 0)
  | 'f' => some ([Char.ofNat 12], 0)
  | 'r' => some (['\r'], 0)
  | 'e' => some ([Char.ofNat 27], 0)
  | ' ' => some ([' '], 0)
  | '"' => some (['"'], 0)
  | '\\' => some (['\\'], 0)
  | 'N' => some ([Char.ofNat 0x85], 0)
  | '_' => some ([Char.ofNat 0xA0], 0)
  | 'L' => some ([Char.ofNat 0x2028], 0)
  | 'P' => some ([Char.ofNat 0x2029], 0)
  | 'x' => some ([], 2)
  | 'u' => some ([], 4)
  | 'U' => some ([], 8)
  | c => if c == apostrophe then some ([apostrophe], 0) else none

/-- 一重か二重の引用符のスカラーを読む。中の改行は平のスカラーと同じように折りたたむ。 -/
def scanQuoted (single : Bool) : ScanM Unit := do
  let start ← here
  let bound := (← get).src.size + 2
  let ctx := some ("while scanning a quoted scalar", start)
  skip
  let mut text : Array Char := #[]
  let mut leadingBreak : List Char := []
  let mut trailing : Array Char := #[]
  let mut spaces : Array Char := #[]
  for _ in [0:bound] do
    let m ← here
    let c0 ← peekAt 0
    let c1 ← peekAt 1
    let c2 ← peekAt 2
    let c3 ← peekAt 3
    if m.column == 0 && ((c0 == '-' && c1 == '-' && c2 == '-') || (c0 == '.' && c1 == '.' && c2 == '.'))
        && isBlankZ c3 then
      fail ctx "found unexpected document indicator"
    if isEnd c0 then fail ctx "found unexpected end of stream"
    let mut leadingBlanks := false
    for _ in [0:bound] do
      let c ← peekAt 0
      if isBlankZ c then break
      let n ← peekAt 1
      if single && c == apostrophe && n == apostrophe then
        text := text.push apostrophe
        skip
        skip
      else if single && c == apostrophe then break
      else if !single && c == '"' then break
      else if !single && c == '\\' && isBreak n then
        skip
        skipLine
        leadingBlanks := true
        break
      else if !single && c == '\\' then
        match escapeOf n with
        | none => fail (some ("while parsing a quoted scalar", start)) "found unknown escape character"
        | some (cs, len) =>
          text := text ++ cs.toArray
          skip
          skip
          if len > 0 then
            let mut v := 0
            for k in [0:len] do
              match hexValue (← peekAt k) with
              | some d => v := 16 * v + d
              | none =>
                fail (some ("while parsing a quoted scalar", start))
                  "did not find expected hexdecimal number"
            if (0xD800 ≤ v && v ≤ 0xDFFF) || v > 0x10FFFF then
              fail (some ("while parsing a quoted scalar", start))
                "found invalid Unicode character escape code"
            text := text.push (Char.ofNat v)
            for _ in [0:len] do skip
      else text := text.push (← take)
    let c ← peekAt 0
    if (single && c == apostrophe) || (!single && c == '"') then break
    for _ in [0:bound] do
      let c ← peekAt 0
      if !(isBlank c || isBreak c) then break
      if isBlank c then
        if !leadingBlanks then spaces := spaces.push (← take) else skip
      else if !leadingBlanks then
        spaces := #[]
        leadingBreak ← takeLine
        leadingBlanks := true
      else
        trailing := trailing ++ (← takeLine).toArray
    if leadingBlanks then
      text := text ++ foldBreaks leadingBreak trailing
      trailing := #[]
      leadingBreak := []
    else
      text := text ++ spaces
      spaces := #[]
  skip
  let stop ← here
  emit (.scalar (String.ofList text.toList) (if single then .singleQuoted else .doubleQuoted))
    start stop

/-- ブロックのスカラーの中身の前の字下げと空行を飛ばし、改行を集める。字下げが与えられていなければ、
最初の中身の行から決める。 -/
def blockBreaks (indent : Nat) (blockIndent : Int) (start : Mark) :
    ScanM (Nat × Array Char) := do
  let bound := (← get).src.size + 2
  let mut ind := indent
  let mut maxIndent := 0
  let mut breaks : Array Char := #[]
  for _ in [0:bound] do
    for _ in [0:bound] do
      if (ind == 0 || (← here).column < ind) && (← peekAt 0) == ' ' then skip else break
    if (← here).column > maxIndent then maxIndent := (← here).column
    if (ind == 0 || (← here).column < ind) && (← peekAt 0) == '\t' then
      fail (some ("while scanning a block scalar", start))
        "found a tab character where an indentation space is expected"
    if !isBreak (← peekAt 0) then break
    breaks := breaks ++ (← takeLine).toArray
  if ind == 0 then
    ind := max maxIndent (max (blockIndent + 1).toNat 1)
  return (ind, breaks)

/-- 文字どおり (`|`) か折りたたみ (`>`) のブロックのスカラーを、その切り詰めと字下げの標識とともに読
む。 -/
def scanBlock (literal : Bool) : ScanM Unit := do
  let start ← here
  let bound := (← get).src.size + 2
  let ctx := some ("while scanning a block scalar", start)
  skip
  let mut chomping : Int := 0
  let mut increment := 0
  let c ← peekAt 0
  if c == '+' || c == '-' then
    chomping := if c == '+' then 1 else -1
    skip
    let d ← peekAt 0
    if d.isDigit then
      if d == '0' then fail ctx "found an indentation indicator equal to 0"
      increment := d.toNat - '0'.toNat
      skip
  else if c.isDigit then
    if c == '0' then fail ctx "found an indentation indicator equal to 0"
    increment := c.toNat - '0'.toNat
    skip
    let d ← peekAt 0
    if d == '+' || d == '-' then
      chomping := if d == '+' then 1 else -1
      skip
  for _ in [0:bound] do
    if isBlank (← peekAt 0) then skip else break
  if (← peekAt 0) == '#' then
    for _ in [0:bound] do
      if isBreakZ (← peekAt 0) then break
      skip
  if !isBreakZ (← peekAt 0) then fail ctx "did not find expected comment or line break"
  if isBreak (← peekAt 0) then skipLine
  let blockIndent := (← get).indent
  let given := if increment > 0 then (if blockIndent ≥ 0 then blockIndent.toNat + increment else increment) else 0
  let (indent, firstBreaks) ← blockBreaks given blockIndent start
  let mut trailing := firstBreaks
  let mut text : Array Char := #[]
  let mut leadingBreak : List Char := []
  let mut leadingBlank := false
  for _ in [0:bound] do
    if !((← here).column == indent && !isEnd (← peekAt 0)) then break
    let trailingBlank := isBlank (← peekAt 0)
    if !literal && leadingBreak.head? == some '\n' && !leadingBlank && !trailingBlank then
      if trailing.isEmpty then text := text.push ' '
      leadingBreak := []
    else
      text := text ++ leadingBreak.toArray
      leadingBreak := []
    text := text ++ trailing
    trailing := #[]
    leadingBlank := isBlank (← peekAt 0)
    for _ in [0:bound] do
      if isBreakZ (← peekAt 0) then break
      text := text.push (← take)
    leadingBreak ← takeLine
    let (_, more) ← blockBreaks indent blockIndent start
    trailing := more
  if chomping != -1 then text := text ++ leadingBreak.toArray
  if chomping == 1 then text := text ++ trailing
  emit (.scalar (String.ofList text.toList) (if literal then .literal else .folded)) start (← here)

/-! ## 指示・アンカー・タグ -/

/-- アンカー、指示、タグのハンドルの名前の文字: ASCII の英字か数字、`_` か `-`。 -/
def isNameChar (c : Char) : Bool :=
  ('0' ≤ c && c ≤ '9') || ('A' ≤ c && c ≤ 'Z') || ('a' ≤ c && c ≤ 'z') || c == '_' || c == '-'

/-- ある種類の文字をとる。 -/
def takeWhile (p : Char → Bool) : ScanM (List Char) := do
  let bound := (← get).src.size + 2
  let mut out : Array Char := #[]
  for _ in [0:bound] do
    let c ← peekAt 0
    if isEnd c || !p c then break
    out := out.push (← take)
  return out.toList

/-- 空白とタブを飛ばす。 -/
def skipBlanks : ScanM Unit := do
  let _ ← takeWhile isBlank

/-- `%YAML` 指示の数一つ: 一つか二つの数字。 -/
def versionNumber (start : Mark) : ScanM Nat := do
  let ctx := some ("while scanning a %YAML directive", start)
  let bound := (← get).src.size + 2
  let mut value := 0
  let mut length := 0
  for _ in [0:bound] do
    let c ← peekAt 0
    if !('0' ≤ c && c ≤ '9') then break
    length := length + 1
    if length > 2 then fail ctx "found extremely long version number"
    value := value * 10 + (c.toNat - 48)
    skip
  if length == 0 then fail ctx "did not find expected version number"
  return value

/-- タグの中、または `%TAG` 指示の中の問題の文脈。 -/
def tagContext (directive : Bool) (start : Mark) : Option (String × Mark) :=
  some (if directive then "while parsing a %TAG directive" else "while parsing a tag", start)

/-- タグの中で `%XX` のエスケープとして書いた文字のオクテット: 先頭のオクテットの上位ビットが求める
だけ、その後のものはどれも `10xxxxxx` の形。その形だけを確かめるので、オクテットが正しい UTF-8
でないこともある。そのまま残す。 -/
def uriEscape (directive : Bool) (start : Mark) : ScanM (List Char) := do
  let mut width := 0
  let mut octets : Array Nat := #[]
  let mut left := 4
  for _ in [0:4] do
    if left == 0 then break
    let h1 := hexValue (← peekAt 1)
    let h2 := hexValue (← peekAt 2)
    match (← peekAt 0) == '%', h1, h2 with
    | true, some a, some b =>
      let octet := 16 * a + b
      if width == 0 then
        width :=
          if octet < 0x80 then 1 else if octet / 32 == 6 then 2 else if octet / 16 == 14 then 3
          else if octet / 8 == 30 then 4 else 0
        if width == 0 then fail (tagContext directive start) "found an incorrect leading UTF-8 octet"
        left := width
      else
        if octet / 64 != 2 then
          fail (tagContext directive start) "found an incorrect trailing UTF-8 octet"
      octets := octets.push octet
      skip
      skip
      skip
      left := left - 1
    | _, _, _ => fail (tagContext directive start) "did not find URI escaped octet"
  return (Text.ofUtf8 octets.toList).toList

/-- 文字がタグの URI に立てるかどうか。コンマと括弧は `wide` のときだけ。 -/
def isUriChar (wide : Bool) (c : Char) : Bool :=
  isNameChar c || ";/?:@&=+$.%!~*()".toList.contains c || c == apostrophe ||
    (wide && (c == ',' || c == '[' || c == ']'))

/-- タグの URI の部分。`head` はハンドルのつもりで既に読んだ文字列で、最初の `!` を除いて残す。
そのとき URI は空でもよい。 -/
def scanTagUri (wide directive : Bool) (head : List Char) (start : Mark) : ScanM String := do
  let bound := (← get).src.size + 2
  let mut out : Array Char := (head.drop 1).toArray
  let mut found := !head.isEmpty
  for _ in [0:bound] do
    let c ← peekAt 0
    if !isUriChar wide c then break
    if c == '%' then out := out ++ (← uriEscape directive start).toArray
    else out := out.push (← take)
    found := true
  if !found then fail (tagContext directive start) "did not find expected tag URI"
  return String.ofList out.toList

/-- タグのハンドル: `!`、`!!` または `!name!`。指示の外では、閉じる `!` のない `!name`
は読んだまま返し、URI の一部として扱う。 -/
def scanTagHandle (directive : Bool) (start : Mark) : ScanM (List Char) := do
  if (← peekAt 0) != '!' then fail (tagContext directive start) "did not find expected '!'"
  skip
  let name ← takeWhile isNameChar
  if (← peekAt 0) == '!' then
    skip
    return '!' :: name ++ ['!']
  else if directive && !name.isEmpty then
    fail (tagContext directive start) "did not find expected '!'"
  else return '!' :: name

/-- `%YAML` か `%TAG` の指示の行。 -/
def directive : ScanM Unit := do
  unrollIndent (-1)
  removeSimpleKey
  modify fun s => { s with keyAllowed := false }
  let start ← here
  let ctx := some ("while scanning a directive", start)
  skip
  let name ← takeWhile isNameChar
  if name.isEmpty then fail ctx "could not find expected directive name"
  if !isBlankZ (← peekAt 0) then fail ctx "found unexpected non-alphabetical character"
  let kind ←
    if name == "YAML".toList then do
      skipBlanks
      let major ← versionNumber start
      if (← peekAt 0) != '.' then
        fail (some ("while scanning a %YAML directive", start))
          "did not find expected digit or '.' character"
      skip
      let minor ← versionNumber start
      pure (TokenKind.versionDirective major minor)
    else if name == "TAG".toList then do
      skipBlanks
      let handle ← scanTagHandle true start
      if !isBlank (← peekAt 0) then
        fail (some ("while scanning a %TAG directive", start)) "did not find expected whitespace"
      skipBlanks
      let uri ← scanTagUri true true [] start
      if !isBlankZ (← peekAt 0) then
        fail (some ("while scanning a %TAG directive", start))
          "did not find expected whitespace or line break"
      pure (TokenKind.tagDirective (String.ofList handle) uri)
    else fail ctx "found unknown directive name"
  let stop ← here
  skipBlanks
  if (← peekAt 0) == '#' then
    let _ ← takeWhile fun c => !isBreak c
  if !isBreakZ (← peekAt 0) then fail ctx "did not find expected comment or line break"
  skipLine
  emit kind start stop

/-- アンカー `&name` か別名 `*name`: 名前の後には空白か標識の文字が続く。 -/
def anchorOrAlias (isAlias : Bool) : ScanM Unit := do
  saveSimpleKey
  modify fun s => { s with keyAllowed := false }
  let start ← here
  skip
  let name ← takeWhile isNameChar
  let c ← peekAt 0
  if name.isEmpty || !(isBlankZ c || "?:,]\x7d%@".toList.contains c || c == Char.ofNat 96) then
    fail (some (if isAlias then "while scanning an alias" else "while scanning an anchor", start))
      "did not find expected alphabetic or numeric character"
  let name := String.ofList name
  emit (if isAlias then .alias name else .anchor name) start (← here)

/-- タグ: `!<uri>`、`!handle!suffix`、`!suffix`、または `!` だけ (ハンドルは空、接尾辞は `!`)。 -/
def tag : ScanM Unit := do
  saveSimpleKey
  modify fun s => { s with keyAllowed := false }
  let start ← here
  let ctx := some ("while scanning a tag", start)
  let (handle, suffix) ←
    if (← peekAt 1) == '<' then do
      skip
      skip
      let uri ← scanTagUri true false [] start
      if (← peekAt 0) != '>' then fail ctx "did not find the expected '>'"
      skip
      pure ("", uri)
    else do
      let handle ← scanTagHandle false start
      if handle.length > 1 && handle.getLast? == some '!' then
        pure (String.ofList handle, ← scanTagUri false false [] start)
      else
        let suffix ← scanTagUri false false handle start
        if suffix.isEmpty then pure ("", "!") else pure ("!", suffix)
  let c ← peekAt 0
  if !isBlankZ c && ((← get).flowLevel == 0 || c != ',') then
    fail ctx "did not find expected whitespace or line break"
  emit (.tag handle suffix) start (← here)

/-! ## 字句の取り出し -/

/-- 一文字の字句を出す。 -/
def single (k : TokenKind) : ScanM Unit := do
  let start ← here
  skip
  emit k start (← here)

/-- `[` か `{`: ありうる単純キー、そしてフローの段を一つ深く。 -/
def flowStart (k : TokenKind) : ScanM Unit := do
  saveSimpleKey
  modify fun s => { s with keys := ⟨false, false, 0, s.mark, 0⟩ :: s.keys,
                           flowLevel := s.flowLevel + 1 }
  let s ← get
  if s.flowLevel > maxDepth then
    fail (some ("while increasing flow level", s.mark)) "exceeded max depth of 10000"
  modify fun s => { s with keyAllowed := true }
  single k

/-- `]` か `}`: フローの段を一つ上へ。 -/
def flowEnd (k : TokenKind) : ScanM Unit := do
  removeSimpleKey
  modify fun s =>
    if s.flowLevel > 0 then
      { s with keys := s.keys.drop 1, flowLevel := s.flowLevel - 1, keyAllowed := false }
    else { s with keyAllowed := false }
  single k

/-- フローの項目の間の `,`。 -/
def flowEntry : ScanM Unit := do
  removeSimpleKey
  modify fun s => { s with keyAllowed := true }
  single .flowEntry

/-- ブロックの列の項目の前の `-`。 -/
def blockEntry : ScanM Unit := do
  let s ← get
  if s.flowLevel == 0 then
    if !s.keyAllowed then fail none "block sequence entries are not allowed in this context"
    rollIndent s.mark.column none .blockSequenceStart s.mark
  removeSimpleKey
  modify fun s => { s with keyAllowed := true }
  single .blockEntry

/-- 複雑なキーの前の `?`。 -/
def complexKey : ScanM Unit := do
  let s ← get
  if s.flowLevel == 0 then
    if !s.keyAllowed then fail none "mapping keys are not allowed in this context"
    rollIndent s.mark.column none .blockMappingStart s.mark
  removeSimpleKey
  modify fun s => { s with keyAllowed := s.flowLevel == 0 }
  single .key

/-- キーの後の `:`。古くなっていないありうる単純キーは今その `key` 字句を得る。
古くなったものはあきらめ、必須なら問題。 -/
def valueIndicator : ScanM Unit := do
  let s ← get
  match s.keys with
  | k :: _ =>
    if k.possible && k.mark.staleAt s.mark then
      if k.required then keyProblem k
      dropSimpleKey
    let s ← get
    let k := (s.keys.head?).getD k
    if k.possible then
      insertAt k.tokenNumber ⟨.key, k.mark, k.mark⟩
      rollIndent k.mark.column (some k.tokenNumber) .blockMappingStart k.mark
      dropSimpleKey
      modify fun s => { s with keyAllowed := false }
    else
      if s.flowLevel == 0 then
        if !s.keyAllowed then fail none "mapping values are not allowed in this context"
        rollIndent s.mark.column none .blockMappingStart s.mark
      modify fun s => { s with keyAllowed := s.flowLevel == 0 }
  | [] => pure ()
  single .value

/-- 行の初めの `---` か `...`。 -/
def documentIndicator (k : TokenKind) : ScanM Unit := do
  unrollIndent (-1)
  removeSimpleKey
  modify fun s => { s with keyAllowed := false }
  let start ← here
  skip
  skip
  skip
  emit k start (← here)

/-- 文字列の終わり: 開いたブロックはすべて閉じる。 -/
def streamEnd : ScanM Unit := do
  let s ← get
  if s.mark.column != 0 then
    set { s with mark := ⟨s.mark.index, s.mark.line + 1, 0⟩ }
  unrollIndent (-1)
  removeSimpleKey
  modify fun s => { s with keyAllowed := false, done := true }
  let m ← here
  emit .streamEnd m m

/-- 平のスカラーを始められない文字。 -/
def indicators : List Char :=
  ['-', '?', ':', ',', '[', ']', '{', '}', '#', '&', '*', '!', '|', '>', apostrophe, '"', '%', '@',
    Char.ofNat 96]

/-- 指示でも文書の標識でも文字列の終わりでもない字句を、`m` で `c` と次の `n` から読む。 -/
def contentToken (m : Mark) (c n : Char) (flow : Bool) : ScanM Unit := do
  if c == '[' then flowStart .flowSequenceStart
  else if c == '{' then flowStart .flowMappingStart
  else if c == ']' then flowEnd .flowSequenceEnd
  else if c == '}' then flowEnd .flowMappingEnd
  else if c == ',' then flowEntry
  else if c == '-' && isBlankZ n then blockEntry
  else if c == '?' && (flow || isBlankZ n) then complexKey
  else if c == ':' && (flow || isBlankZ n) then valueIndicator
  else if c == '*' then anchorOrAlias true
  else if c == '&' then anchorOrAlias false
  else if c == '!' then tag
  else if (c == '|' || c == '>') && !flow then
    removeSimpleKey
    modify fun s => { s with keyAllowed := true }
    scanBlock (c == '|')
  else if c == apostrophe || c == '"' then
    saveSimpleKey
    modify fun s => { s with keyAllowed := false }
    scanQuoted (c == apostrophe)
  else if !(isBlankZ c || indicators.contains c) || (c == '-' && !isBlank n) ||
      (!flow && (c == '?' || c == ':') && !isBlankZ n) then
    saveSimpleKey
    modify fun s => { s with keyAllowed := false }
    scanPlain
  else fail (some ("while scanning for the next token", m)) "found character that cannot start any token"

/-- 次の字句を読む。字句の行の残りの注釈はそれとともに過ぎる。ただし字句がブロックの列の
項目の `-` なら過ぎない。 -/
def fetchNext : ScanM Unit := do
  toNextToken
  unrollIndent (← here).column
  let m ← here
  let c ← peekAt 0
  let n ← peekAt 1
  let flow := (← get).flowLevel > 0
  let _ ← peekAt 3
  if isEnd c then streamEnd
  else if m.column == 0 && c == '%' then directive
  else if m.column == 0 && c == '-' && n == '-' && (← peekAt 2) == '-' && isBlankZ (← peekAt 3) then
    documentIndicator .documentStart
  else if m.column == 0 && c == '.' && n == '.' && (← peekAt 2) == '.' && isBlankZ (← peekAt 3) then
    documentIndicator .documentEnd
  else
    contentToken m c n flow
    if !((← get).tokens.back?.any (·.kind matches .blockEntry)) then lineComment

end Scanner

/-- YAML の文字列が持てない最初の文字を持つ文字列の切れの、最初の文字の番号。あれば。文字列は
512 バイトの切れで読み、切れの終わりで切れた文字はまるごと次に回る。 -/
def firstBadPiece (cs : List Char) : Option Nat :=
  go cs 0 0 0 0
where
  /-- バイト `b` の文字 `i` から。今の切れはバイト `pieceByte`、文字 `pieceChar` で始まる。 -/
  go : List Char → Nat → Nat → Nat → Nat → Option Nat
    | [], _, _, _, _ => none
    | c :: rest, i, b, pieceByte, pieceChar =>
      let w := c.utf8Size
      let (pieceByte, pieceChar) :=
        if b + w > pieceByte + 512 then (b, i) else (pieceByte, pieceChar)
      if !isAllowed c then some pieceChar
      else go rest (i + 1) (b + w) pieceByte pieceChar

/-- スキャンの全体: 字句。取り出しの歩ごとの字句の数と位置 (最初の項目はどの歩よりも前)。
ありうる単純キーの記録。そしてスキャンを止めた問題。あれば。 -/
structure Scan where
  tokens : Array Token
  trail : Array (Nat × Mark)
  lives : Array KeyLife
  stop : Option Problem

/-- 文字列全体を読む。 -/
def scan (text : String) : Scan :=
  let src := text.toList.toArray
  let readable := (firstBadPiece text.toList).getD (src.size + 16)
  let m0 : Mark := ⟨0, 0, 0⟩
  let s0 : Scanner := ⟨src, readable, m0, #[⟨.streamStart, m0, m0⟩], -1, [], true,
    [⟨false, false, 0, m0, 0⟩], 0, false, 0, #[], 0⟩
  let rec go (fuel : Nat) (s : Scanner) (trail : Array (Nat × Mark)) : Scan :=
    match fuel with
    | 0 => ⟨s.tokens, trail, s.lives, none⟩
    | fuel + 1 =>
      if s.done then ⟨s.tokens, trail, s.lives, none⟩
      else match Scanner.fetchNext.run { s with step := s.step + 1 } with
        | .ok () s' => go fuel s' (trail.push (s'.tokens.size, s'.mark))
        | .error p s' => ⟨s'.tokens, trail, s'.lives, some p⟩
  go (2 * src.size + 8) s0 #[(1, m0)]

namespace Scan

/-- `q` かその後のキーの記録で、字句の番号が `h` より小さくない最初のもの。 -/
def skipKeys (sc : Scan) (h : Nat) : Nat → Nat → Nat
  | 0, q => q
  | fuel + 1, q =>
    match sc.lives[q]? with
    | some l => if l.number < h then sc.skipKeys h fuel (q + 1) else q
    | none => q

/-- `q` から先の記録で、字句 `h` を始める単純キーが歩 `p` の後もまだありうるもの。 -/
def liveKey (sc : Scan) (h p : Nat) : Nat → Nat → Option KeyLife
  | 0, _ => none
  | fuel + 1, q =>
    match sc.lives[q]? with
    | some l =>
      if l.number != h then none
      else if l.born ≤ p && l.ended.all (p < ·) then some l
      else sc.liveKey h p fuel (q + 1)
    | none => none

/-- 字句 `h` を渡せるまで歩 `p` から歩を進める: その後に字句がさらに二つ続き、
それがまだキーになりうるありうる単純キーを始めない (必須の古くなったものは問題)。達した歩か、
出会った問題を与える。 -/
def serve (sc : Scan) (h q : Nat) : Nat → Nat → Except Problem Nat
  | 0, p => .ok p
  | fuel + 1, p =>
    let (len, mark) := sc.trail.getD p (0, default)
    let decided : Option (Except Problem Nat) :=
      if len > h + 2 then
        match sc.liveKey h p sc.lives.size q with
        | none => some (.ok p)
        | some l =>
          if l.mark.staleAt mark then
            some (if l.required then
              .error ⟨some ("while scanning a simple key", l.mark), "could not find expected ':'",
                mark⟩
              else .ok p)
          else none
      else none
    match decided with
    | some r => r
    | none =>
      if p + 1 < sc.trail.size then sc.serve h q fuel (p + 1)
      else match sc.stop with
        | some pr => .error pr
        | none => .ok p

/-- 字句を順にとる読み手が得られない最初の字句の番号と、そこで出会う問題。 -/
def barrier (sc : Scan) : Option (Nat × Problem) :=
  go sc.tokens.size 0 0 0
where
  /-- 歩 `p` とキーの記録 `q` から、字句 `h` とその後のものを渡す。 -/
  go : Nat → Nat → Nat → Nat → Option (Nat × Problem)
    | 0, _, _, _ => none
    | fuel + 1, h, p, q =>
      let q := sc.skipKeys h sc.lives.size q
      match sc.serve h q (sc.trail.size + 1) p with
      | .error pr => some (h, pr)
      | .ok p => go fuel (h + 1) p q

end Scan

end HttpCaching.Yaml
