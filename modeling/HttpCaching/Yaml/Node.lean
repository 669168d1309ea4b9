import HttpCaching.Yaml.Scanner
import HttpCaching.Yaml.Tag
/-!
# YAML の木

字句の列から最初の文書の木を組み立てる。ブロックの列 (`- x`)、ブロックの写像
(`k: v`)、写像の値の位置に置かれた字下げなしの列、フロー (`[a, b]`, `{k: v}`) を読む。
欠けたキーや値は空のスカラーになる。行番号は 1 から数える。
二つ目以降の文書は読まない。

節点の前にはアンカー `&a` とタグ `!t` を置ける。アンカーは節点が始まった時点で登録され、
後の別名 `*a` はその時点で最後に登録された節点を指す (集まりの中から自分自身も指せる)。
アンカーの付いた節点は文書の `anchored` に番号で並ぶ。文書の前の `%YAML` は 1.1 だけを、
`%TAG` はタグの略記を受け付ける。
-/
namespace HttpCaching.Yaml

/-- YAML の文書の節点。明示したタグと、始まる行 (一から) をつける。別名は表す節点の枠を名指し、
出現どうしを区別するために自分の番号を持つ。 -/
inductive Node where
  | scalar (text : String) (style : ScalarStyle) (tag : Option Tag) (line : Nat)
  | sequence (items : List Node) (tag : Option Tag) (line : Nat)
  | mapping (pairs : List (Node × Node)) (tag : Option Tag) (line : Nat)
  | alias (name : String) (slot : Nat) (id : Nat) (line : Nat)
  deriving Inhabited, Repr

/-- 節点が始まる行。 -/
def Node.line : Node → Nat
  | .scalar _ _ _ l | .sequence _ _ l | .mapping _ _ l | .alias _ _ _ l => l

/-- 文書: その根と、枠ごとのアンカーをつけた節点。 -/
structure Document where
  root : Node
  anchored : Array Node

/-- 文字列が YAML の文書でないわけ。 -/
inductive ParseError where
  /-- スキャナーが問題に出会った。 -/
  | scanner (p : Problem)
  /-- パーサーが問題に出会った。 -/
  | parser (p : Problem)
  /-- 別名が、それより前に見たアンカーのどれも名指さない。 -/
  | unknownAnchor (name : String)
  deriving Inhabited

/-- YAML の誤りの文: 文脈の位置が最初の行より後ならそこから、そうでなければ問題の位置からの
`line N: ` と、問題。スキャナーの行は一から、パーサーの行は零から数える。 -/
def ParseError.message : ParseError → String
  | .unknownAnchor name => "yaml: unknown anchor " ++ "'" ++ name ++ "' referenced"
  | .scanner p => located 1 p
  | .parser p => located 0 p
where
  /-- 行をつけた問題。 -/
  located (bump : Nat) (p : Problem) : String :=
    let ctxLine := match p.context with
      | some (_, m) => m.line
      | none => 0
    let line := if ctxLine != 0 then ctxLine + bump
      else if p.mark.line != 0 then p.mark.line + bump
      else 0
    "yaml: " ++ (if line != 0 then "line " ++ toString line ++ ": " else "") ++ p.problem

/-- パーサーのために読んだ文字列。得られない最初の字句とそこでの問題をつける。 -/
structure Stream where
  scan : Scan
  barrier : Option (Nat × Problem)

namespace Stream

/-- 文字列のストリーム。 -/
def ofText (text : String) : Stream :=
  let sc := HttpCaching.Yaml.scan text
  ⟨sc, sc.barrier⟩

/-- 番号の字句。その字句が得られなければスキャナーの問題。 -/
def peek (st : Stream) (i : Nat) : Except ParseError Token :=
  match st.barrier with
  | some (h, p) =>
    if i ≥ h then .error (.scanner p)
    else .ok (st.scan.tokens.getD i default)
  | none =>
    let n := st.scan.tokens.size
    .ok (st.scan.tokens.getD (min i (n - 1)) default)

end Stream

/-- パーサーが覚えているもの: アンカーの名前とその枠 (新しいものが先頭)、アンカーをつけた節点、
タグのハンドルとその接頭辞。 -/
structure Anchors where
  names : List (String × Nat)
  slots : Array Node
  handles : List (String × String)

/-- 解析の歩: アンカーを読み、失敗することがある。 -/
abbrev ParseM := StateT Anchors (Except ParseError)

/-- パーサーの問題。 -/
def parserError (context : String) (cm : Mark) (problem : String) (pm : Mark) : ParseError :=
  .parser ⟨some (context, cm), problem, pm⟩

/-- ない節点を表す空のスカラー。 -/
def emptyAt (m : Mark) : Node := .scalar "" .plain none (m.line + 1)

/-- 字句が種類の一覧のどれかかどうか。 -/
def Token.isOneOf (t : Token) (ks : List TokenKind) : Bool := ks.contains t.kind

/-- アンカーのために枠をとる。節点は読んだときにそこに入る。 -/
def reserve (name : String) : ParseM Nat := do
  let a ← get
  set { a with names := (name, a.slots.size) :: a.names, slots := a.slots.push default }
  return a.slots.size

/-- アンカーをつけた節点をその枠に入れる。 -/
def fillSlot (slot : Option Nat) (n : Node) : ParseM Unit :=
  match slot with
  | some k => modify fun a => { a with slots := a.slots.set! k n }
  | none => pure ()

/-- ハンドルと接尾辞が表すタグ。`!` にはタグなし。 -/
def resolveTag (start : Mark) (handle suffix : String) (at_ : Mark) : ParseM (Option Tag) := do
  let full ← if handle.isEmpty then pure suffix
    else match (← get).handles.lookup handle with
      | some pfx => pure (pfx ++ suffix)
      | none => throw (parserError "while parsing a node" start "found undefined tag handle" at_)
  return if full.isEmpty || full == "!" then none else some (Tag.ofFull full)

/-- 節点の前のアンカーとタグ: その後の字句の番号、節点が始まる位置、アンカー、タグ。 -/
def properties (st : Stream) (i : Nat) : ParseM (Nat × Mark × Option String × Option Tag) := do
  let t ← st.peek i
  match t.kind with
  | .anchor a =>
    let t2 ← st.peek (i + 1)
    match t2.kind with
    | .tag h s =>
      let _ ← st.peek (i + 2)
      return (i + 2, t.start, some a, ← resolveTag t.start h s t2.start)
    | _ => return (i + 1, t.start, some a, none)
  | .tag h s =>
    let t2 ← st.peek (i + 1)
    match t2.kind with
    | .anchor a =>
      let _ ← st.peek (i + 2)
      return (i + 2, t.start, some a, ← resolveTag t.start h s t.start)
    | _ => return (i + 1, t.start, none, ← resolveTag t.start h s t.start)
  | _ => return (i, t.start, none, none)

mutual

/-- 節点。`block` はブロックの集まりを、`indentless` は字下げのない列を許す。 -/
def parseNode (st : Stream) (fuel : Nat) (block indentless : Bool) (i : Nat) :
    ParseM (Node × Nat) := do
  match fuel with
  | 0 => throw (parserError "while parsing a node" default "nesting too deep" default)
  | fuel + 1 =>
    let t ← st.peek i
    if let .alias name := t.kind then
      match (← get).names.lookup name with
      | some slot => return (.alias name slot i (t.start.line + 1), i + 1)
      | none => throw (.unknownAnchor name)
    let (i, start, anchor, tag) ← properties st i
    let t ← st.peek i
    let line := start.line + 1
    let hasProperties := anchor.isSome || tag.isSome
    match t.kind with
    | .scalar text style =>
      let n := Node.scalar text style tag line
      if let some a := anchor then fillSlot (some (← reserve a)) n
      return (n, i + 1)
    | .blockEntry =>
      if indentless then
        let slot ← anchor.mapM reserve
        let (items, j) ← parseIndentless st fuel t.start i []
        let n := Node.sequence items tag line
        fillSlot slot n
        return (n, j)
      else contentMissing block start t anchor tag hasProperties i
    | .flowSequenceStart =>
      let slot ← anchor.mapM reserve
      let (items, j) ← parseFlowSequence st fuel t.start (i + 1) true []
      let n := Node.sequence items tag line
      fillSlot slot n
      return (n, j)
    | .flowMappingStart =>
      let slot ← anchor.mapM reserve
      let (pairs, j) ← parseFlowMapping st fuel t.start (i + 1) true []
      let n := Node.mapping pairs tag line
      fillSlot slot n
      return (n, j)
    | .blockSequenceStart =>
      if block then
        let slot ← anchor.mapM reserve
        let (items, j) ← parseBlockSequence st fuel t.start (i + 1) []
        let n := Node.sequence items tag line
        fillSlot slot n
        return (n, j)
      else contentMissing block start t anchor tag hasProperties i
    | .blockMappingStart =>
      if block then
        let slot ← anchor.mapM reserve
        let (pairs, j) ← parseBlockMapping st fuel t.start (i + 1) []
        let n := Node.mapping pairs tag line
        fillSlot slot n
        return (n, j)
      else contentMissing block start t anchor tag hasProperties i
    | _ => contentMissing block start t anchor tag hasProperties i

/-- 節点があるべき所に中身がない: 節点にアンカーかタグがあれば空のスカラー、なければ問題。 -/
def contentMissing (block : Bool) (start : Mark) (t : Token) (anchor : Option String)
    (tag : Option Tag) (hasProperties : Bool) (i : Nat) : ParseM (Node × Nat) := do
  if hasProperties then
    let n := Node.scalar "" .plain tag (start.line + 1)
    if let some a := anchor then fillSlot (some (← reserve a)) n
    return (n, i)
  else
    throw (parserError (if block then "while parsing a block node" else "while parsing a flow node")
      start "did not find expected node content" t.start)

/-- 始まりの字句の後の、ブロックの列の項目。 -/
def parseBlockSequence (st : Stream) (fuel : Nat) (start : Mark) (i : Nat) (acc : List Node) :
    ParseM (List Node × Nat) := do
  match fuel with
  | 0 => throw (parserError "while parsing a block collection" start "nesting too deep" start)
  | fuel + 1 =>
    let t ← st.peek i
    match t.kind with
    | .blockEntry =>
      let t' ← st.peek (i + 1)
      if t'.isOneOf [.blockEntry, .blockEnd] then
        parseBlockSequence st fuel start (i + 1) (emptyAt t.stop :: acc)
      else
        let (n, j) ← parseNode st fuel true false (i + 1)
        parseBlockSequence st fuel start j (n :: acc)
    | .blockEnd => return (acc.reverse, i + 1)
    | _ =>
      throw (parserError "while parsing a block collection" start
        "did not find expected '-' indicator" t.start)

/-- それを持つ写像の字下げで書いた列の項目。 -/
def parseIndentless (st : Stream) (fuel : Nat) (start : Mark) (i : Nat) (acc : List Node) :
    ParseM (List Node × Nat) := do
  match fuel with
  | 0 => throw (parserError "while parsing a block collection" start "nesting too deep" start)
  | fuel + 1 =>
    let t ← st.peek i
    match t.kind with
    | .blockEntry =>
      let t' ← st.peek (i + 1)
      if t'.isOneOf [.blockEntry, .key, .value, .blockEnd] then
        parseIndentless st fuel start (i + 1) (emptyAt t.stop :: acc)
      else
        let (n, j) ← parseNode st fuel true false (i + 1)
        parseIndentless st fuel start j (n :: acc)
    | _ => return (acc.reverse, i)

/-- 始まりの字句の後の、ブロックの写像の組。 -/
def parseBlockMapping (st : Stream) (fuel : Nat) (start : Mark) (i : Nat)
    (acc : List (Node × Node)) : ParseM (List (Node × Node) × Nat) := do
  match fuel with
  | 0 => throw (parserError "while parsing a block mapping" start "nesting too deep" start)
  | fuel + 1 =>
    let t ← st.peek i
    match t.kind with
    | .key =>
      let t' ← st.peek (i + 1)
      let (k, j) ←
        if t'.isOneOf [.key, .value, .blockEnd] then pure (emptyAt t.stop, i + 1)
        else parseNode st fuel true true (i + 1)
      let tv ← st.peek j
      if tv.kind == .value then
        let t'' ← st.peek (j + 1)
        if t''.isOneOf [.key, .value, .blockEnd] then
          parseBlockMapping st fuel start (j + 1) ((k, emptyAt tv.stop) :: acc)
        else
          let (v, j') ← parseNode st fuel true true (j + 1)
          parseBlockMapping st fuel start j' ((k, v) :: acc)
      else parseBlockMapping st fuel start j ((k, emptyAt tv.start) :: acc)
    | .blockEnd => return (acc.reverse, i + 1)
    | _ =>
      throw (parserError "while parsing a block mapping" start "did not find expected key" t.start)

/-- `[` の後の、フローの列の項目。 -/
def parseFlowSequence (st : Stream) (fuel : Nat) (start : Mark) (i : Nat) (first : Bool)
    (acc : List Node) : ParseM (List Node × Nat) := do
  match fuel with
  | 0 => throw (parserError "while parsing a flow sequence" start "nesting too deep" start)
  | fuel + 1 =>
    let t ← st.peek i
    if t.kind == .flowSequenceEnd then return (acc.reverse, i + 1)
    let (t, i) ←
      if first then pure (t, i)
      else if t.kind == .flowEntry then do pure (← st.peek (i + 1), i + 1)
      else throw (parserError "while parsing a flow sequence" start
        "did not find expected ',' or ']'" t.start)
    match t.kind with
    | .flowSequenceEnd => return (acc.reverse, i + 1)
    | .key =>
      let t' ← st.peek (i + 1)
      let (k, j) ←
        -- ここの空の鍵は、その後のトークンも過ぎる
        if t'.isOneOf [.value, .flowEntry, .flowSequenceEnd] then pure (emptyAt t'.stop, i + 2)
        else parseNode st fuel false false (i + 1)
      let tv ← st.peek j
      let (v, j) ←
        if tv.kind == .value then do
          let t'' ← st.peek (j + 1)
          if t''.isOneOf [.flowEntry, .flowSequenceEnd] then pure (emptyAt tv.stop, j + 1)
          else parseNode st fuel false false (j + 1)
        else pure (emptyAt tv.start, j)
      parseFlowSequence st fuel start j false (.mapping [(k, v)] none (t.start.line + 1) :: acc)
    | _ =>
      let (n, j) ← parseNode st fuel false false i
      parseFlowSequence st fuel start j false (n :: acc)

/-- `{` の後の、フローの写像の組。 -/
def parseFlowMapping (st : Stream) (fuel : Nat) (start : Mark) (i : Nat) (first : Bool)
    (acc : List (Node × Node)) : ParseM (List (Node × Node) × Nat) := do
  match fuel with
  | 0 => throw (parserError "while parsing a flow mapping" start "nesting too deep" start)
  | fuel + 1 =>
    let t ← st.peek i
    if t.kind == .flowMappingEnd then return (acc.reverse, i + 1)
    let (t, i) ←
      if first then pure (t, i)
      else if t.kind == .flowEntry then do pure (← st.peek (i + 1), i + 1)
      else throw (parserError "while parsing a flow mapping" start
        "did not find expected ',' or '\x7d'" t.start)
    match t.kind with
    | .flowMappingEnd => return (acc.reverse, i + 1)
    | .key =>
      let t' ← st.peek (i + 1)
      let (k, j) ←
        if t'.isOneOf [.value, .flowEntry, .flowMappingEnd] then pure (emptyAt t.stop, i + 1)
        else parseNode st fuel false false (i + 1)
      let tv ← st.peek j
      let (v, j) ←
        if tv.kind == .value then do
          let t'' ← st.peek (j + 1)
          if t''.isOneOf [.flowEntry, .flowMappingEnd] then pure (emptyAt tv.stop, j + 1)
          else parseNode st fuel false false (j + 1)
        else pure (emptyAt tv.start, j)
      parseFlowMapping st fuel start j false ((k, v) :: acc)
    | _ =>
      let (k, j) ← parseNode st fuel false false i
      let tv ← st.peek j
      parseFlowMapping st fuel start j false ((k, emptyAt tv.start) :: acc)

end

/-- 字句が指示かどうか。 -/
def Token.isDirective (t : Token) : Bool :=
  match t.kind with
  | .versionDirective _ _ | .tagDirective _ _ => true
  | _ => false

/-- どの文書も知っているハンドル: ローカルのタグの `!` と標準のタグの `!!`。 -/
def defaultHandles : List (String × String) := [("!", "!"), ("!!", Tag.standardPrefix)]

/-- 明示した文書の前の指示を、字句 `i` から読む: 1.1 でなければならない `%YAML` を高々一つと、
それぞれ一度きりの `%TAG` のハンドル。ハンドルと、その後の字句を与える。 -/
def directives (st : Stream) (fuel : Nat) (i : Nat) (version : Bool)
    (handles : List (String × String)) : Except ParseError (List (String × String) × Nat) := do
  match fuel with
  | 0 => return (handles, i)
  | fuel + 1 =>
    let t ← st.peek i
    match t.kind with
    | .versionDirective major minor =>
      if version then throw (.parser ⟨none, "found duplicate %YAML directive", t.start⟩)
      if major != 1 || minor != 1 then
        throw (.parser ⟨none, "found incompatible YAML document", t.start⟩)
      directives st fuel (i + 1) true handles
    | .tagDirective handle uri =>
      if handles.any (·.1 == handle) then
        throw (.parser ⟨none, "found duplicate %TAG directive", t.start⟩)
      directives st fuel (i + 1) version (handles ++ [(handle, uri)])
    | _ => return (handles, i)

/-- 文字列の最初の文書。文字列が一つも持たなければ `none`。 -/
def parseDocument (text : String) : Except ParseError (Option Document) := do
  let st := Stream.ofText text
  let fuel := 3 * st.scan.tokens.size + 8
  let _ ← st.peek 0
  let t ← st.peek 1
  let withDefaults (hs : List (String × String)) :=
    hs ++ defaultHandles.filter fun (h, _) => !hs.any (·.1 == h)
  let run (handles : List (String × String)) (start : Nat) :
      Except ParseError (Option Document) := do
    let ((root, j), a) ← (parseNode st fuel true false start).run ⟨[], #[], handles⟩
    let _ ← st.peek j
    return some ⟨root, a.slots⟩
  match t.kind with
  | .streamEnd => return none
  | .documentStart => content st (withDefaults []) 2 run
  | .versionDirective _ _ | .tagDirective _ _ =>
    let (handles, j) ← directives st fuel 1 false []
    let t' ← st.peek j
    if t'.kind != .documentStart then
      throw (.parser ⟨none, "did not find expected <document start>", t'.start⟩)
    content st (withDefaults handles) (j + 1) run
  | _ => run (withDefaults []) 1
where
  /-- 字句 `i` からの明示した文書の中身: 指示、文書の印、または終わりが続くなら空。 -/
  content (st : Stream) (handles : List (String × String)) (i : Nat)
      (run : List (String × String) → Nat → Except ParseError (Option Document)) :
      Except ParseError (Option Document) := do
    let t ← st.peek i
    if t.isDirective || t.isOneOf [.documentStart, .documentEnd, .streamEnd] then
      let _ ← st.peek i
      return some ⟨emptyAt t.start, #[]⟩
    else run handles i

/-- 写像の二つのキーを比べるもの: 種類と文字列 (集まりなら空、別名ならアンカーの名前)。 -/
def Node.keyView : Node → Nat × String
  | .scalar t _ _ _ => (0, t)
  | .sequence _ _ _ => (1, "")
  | .mapping _ _ _ => (2, "")
  | .alias name _ _ _ => (3, name)

/-- 節点が文で見せるタグ: 明示したタグ、それ以外は引用符かブロックのスカラーなら `!!str`、
平のスカラーなら解決した型、集まりなら `!!seq` か `!!map`。 -/
def Node.shownTag : Node → Tag
  | .scalar text style tag _ => tag.getD (if style == .plain then Tag.ofPlain text else .str)
  | .sequence _ tag _ => tag.getD .seq
  | .mapping _ tag _ => tag.getD .map
  | .alias _ _ _ _ => .str

/-- キーが合併を求めるかどうか: タグが合併のタグの文字列 `<<`。タグのない平の `<<`
がそうであるように。 -/
def Node.isMergeKey (n : Node) : Bool :=
  match n with
  | .scalar t _ _ _ => t == "<<" && n.shownTag == .merge
  | _ => false

end HttpCaching.Yaml
