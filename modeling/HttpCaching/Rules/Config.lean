import HttpCaching.Rules.Rule
import HttpCaching.Yaml.Node
import HttpCaching.Text.Base64
import HttpCaching.Yaml.Value
/-!
# 規則ファイル

規則ファイルは最上位の `rules` に規則の列を持つ YAML 文書。各規則は写像で、
`prefix`・`path`・`method`・`default`・`override` は文字列、`set`・`query`・`headers` は
文字列から文字列への写像、`delete` は文字列の列。知らないキーは読み飛ばす。
文字列はバイト列として読む (`!!binary` はどんなバイトも与えうる)。

読み込みは型の合わない値を行番号つきで順に集め、一つでもあれば全体を失敗とする。
写像の同じキーは二度目以降をすべて報告する。null は値を空のままにし、列の中の
null や読めなかった要素は落とす。`<<` キーは別の写像 (またはその列) の値のうち
まだ無いキーだけを、写像の他のキーの後で取り込む。読み終えた規則は `validate` で確かめる。

別名はアンカーの節点として読む。自分自身の中で同じ別名に戻ったとき、別名を通した読み取りが
多すぎるとき、明示されたタグと文字面が合わないとき、`<<` の値が写像でないときは、
その場で全体が失敗する。
-/
namespace HttpCaching.Rules

open Yaml

/-- 規則のファイルを読み込む値の種類。unmarshal の誤りが呼ぶ名前で。 -/
inductive Slot where
  | config
  | rules
  | rule
  | text
  | texts
  | textMap
  deriving DecidableEq, Repr

/-- 文に出る欄の種類の名前。 -/
def Slot.typeName : Slot → String
  | .config => "responsetransformer.config"
  | .rules => "responsetransformer.Rules"
  | .rule => "responsetransformer.Rule"
  | .text => "string"
  | .texts => "[]string"
  | .textMap => "map[string]string"

/-- 文字列の最初のバイト。途中で切れた文字は、残したバイトごとに置き換え文字一つになる。 -/
def cutBytes (s : String) (n : Nat) : String :=
  String.ofList (go s.toList n)
where
  /-- バイトの数に収まる文字。 -/
  go : List Char → Nat → List Char
    | [], _ => []
    | c :: r, n =>
      if c.utf8Size ≤ n then c :: go r (n - c.utf8Size)
      else List.replicate n (Char.ofNat 0xFFFD)

/-- 規則のファイルがその位置に持てない値。 -/
inductive Mismatch where
  | wrongType (line : Nat) (tag : Tag) (value : String) (slot : Slot)
  | duplicateKey (line : Nat) (key : String) (firstLine : Nat)
  /-- 一つの写像の中で、別名を通して二度目に名指された欄。 -/
  | fieldSet (line : Nat) (name : String) (slot : Slot)
  deriving Repr

/-- 合わないことの文。スカラーの文字列を見せ、十バイトより長ければ七バイトに切って `...`
をつける。 -/
def Mismatch.message : Mismatch → String
  | .wrongType line tag value slot =>
    let shown :=
      if tag == .seq || tag == .map then ""
      else if value.utf8ByteSize > 10 then " " ++ "\x60" ++ cutBytes value 7 ++ "...\x60"
      else " \x60" ++ value ++ "\x60"
    "line " ++ toString line ++ ": cannot unmarshal " ++ tag.short ++ shown ++ " into " ++
      slot.typeName
  | .duplicateKey line key firstLine =>
    "line " ++ toString line ++ ": mapping key " ++ Text.quoteLiteral key ++
      " already defined at line " ++ toString firstLine
  | .fieldSet line name slot =>
    "line " ++ toString line ++ ": field " ++ name ++ " already set in type " ++ slot.typeName

/-- ファイルの木の読み取りがすぐに止まったわけ。 -/
inductive Fatal where
  /-- 表のキーとして読んだ集まり。式として書く。 -/
  | invalidMapKey (literal : String)
  | mergeNeedsMap
  /-- 型がそのタグの求めるものでない文字列。 -/
  | cannotDecode (found : Tag) (text : String) (wanted : Tag)
  | badBinary
  /-- 別名が、それが表す節点を読んでいる間にまた現れた。 -/
  | containsItself (name : String)
  | excessiveAliasing
  /-- 合併が集める写像のキーの中の集まり: そうしたキーにはハッシュがなく、読み取りは落ちる。
  目当ての型なしで読んだときのキーの型を添える。 -/
  | unhashableKey (typeName : String)

/-- 致命的な問題の文。 -/
def Fatal.message : Fatal → String
  | .invalidMapKey literal => "yaml: invalid map key: " ++ literal
  | .mergeNeedsMap => "yaml: map merge requires map or sequence of maps as the value"
  | .cannotDecode found text wanted =>
    "yaml: cannot decode " ++ found.short ++ " \x60" ++ text ++ "\x60 as a " ++ wanted.short
  | .badBinary => "yaml: !!binary value contains invalid base64 data"
  | .containsItself name => "yaml: anchor " ++ "'" ++ name ++ "' value contains itself"
  | .excessiveAliasing => "yaml: document contains excessive aliasing"
  | .unhashableKey t => "runtime error: hash of unhashable type " ++ t

/-- ファイルから規則を得られなかったわけ。 -/
inductive LoadError where
  | missing (file : String)
  /-- ファイルの後に続くパス。 -/
  | notDirectory (file : String)
  | isDirectory (file : String)
  | malformed (file : String) (e : ParseError)
  | fatal (file : String) (f : Fatal)
  /-- 読み取りがこの問題で落ちた。ほかには何も言わない。 -/
  | crashed (f : Fatal)
  | mismatches (file : String) (ms : List Mismatch)
  | invalid (b : BadRule)

/-- 読み込みの誤りの文。 -/
def LoadError.message : LoadError → String
  | .missing file => "reading rules file: open " ++ file ++ ": no such file or directory"
  | .notDirectory file => "reading rules file: open " ++ file ++ ": not a directory"
  | .isDirectory file => "reading rules file: read " ++ file ++ ": is a directory"
  | .malformed file e => "parsing rules file " ++ file ++ ": " ++ e.message
  | .fatal file f => "parsing rules file " ++ file ++ ": " ++ f.message
  | .crashed f => f.message
  | .mismatches file ms =>
    "parsing rules file " ++ file ++ ": yaml: unmarshal errors:\n  " ++
      "\n  ".intercalate (ms.map Mismatch.message)
  | .invalid b => b.message

/-- 読み取りの途中の状態: そこまでの合わないこと (新しいものが先頭)、読んでいる別名 (内側が先頭)、
とった歩の数 (全部と、別名を通したもの)。 -/
structure Reading where
  mismatches : List Mismatch
  expanding : List Nat
  steps : Nat
  aliasSteps : Nat

/-- アンカーをつけた節点を与えて、ファイルの木を読む: 合わないことは集まり、
致命的な問題はすべてを止める。 -/
abbrev Decode := ReaderT (Array Node) (StateT Reading (Except Fatal))

/-- 合わないことを書き留める。 -/
def mismatch (m : Mismatch) : Decode Unit :=
  modify fun r => { r with mismatches := m :: r.mismatches }

/-- 別名を通した歩の割合が、この歩数の文書に許される分を超えるかどうか: 400,000 歩までは 99%、
4,000,000 歩からは 10%、その間は直線で。 -/
def tooMuchAliasing (aliasSteps steps : Nat) : Bool :=
  if steps ≤ 400000 then 100 * aliasSteps > 99 * steps
  else if steps ≥ 4000000 then 10 * aliasSteps > steps
  else 360000000 * aliasSteps > steps * (356400000 - 89 * (steps - 400000))

/-- 節点を読む一歩を数える。 -/
def step : Decode Unit := do
  modify fun r => { r with
    steps := r.steps + 1
    aliasSteps := if r.expanding.isEmpty then r.aliasSteps else r.aliasSteps + 1 }
  let r ← get
  if r.aliasSteps > 100 && r.steps > 1000 && tooMuchAliasing r.aliasSteps r.steps then
    throw .excessiveAliasing

/-- 別名が表す節点。ほかの節点は自分を表す。 -/
def target (n : Node) : Decode Node := do
  match n with
  | .alias _ slot _ _ => return (← read).getD slot default
  | n => return n

/-- 節点を読み始める: 一歩、別名ならそれが表す節点へもう一歩進み、別名を読んでいる印をつける。
読む節点と、後で印を外す別名を返す。 -/
def enter (n : Node) : Decode (Node × Option Nat) := do
  step
  match n with
  | .alias name _ id _ =>
    if (← get).expanding.contains id then throw (.containsItself name)
    modify fun r => { r with expanding := id :: r.expanding }
    step
    return (← target n, some id)
  | n => return (n, none)

/-- `enter` で始めた節点の読み取りを終える。 -/
def leave : Option Nat → Decode Unit
  | some id => modify fun r => { r with expanding := r.expanding.erase id }
  | none => pure ()

/-- 節点が欄に合わないことを書き留める。 -/
def wrongType (n : Node) (slot : Slot) : Decode Unit :=
  let value := match n with
    | .scalar t _ _ _ => t
    | _ => ""
  mismatch (.wrongType n.line n.shownTag value slot)

/-- 二つのキーの見え方が順に並んでいるかどうか: 種類の順、それから文字列の順。 -/
def viewLE (a b : Nat × String) : Bool := a.1 < b.1 || (a.1 == b.1 && decide (a.2 ≤ b.2))

/-- 列のどれかの見え方が二度現れるかどうか: 並べ替えれば、隣どうしが等しい。 -/
def hasRepeat (views : List (Nat × String)) : Bool :=
  let sorted := views.mergeSort viewLE
  (sorted.zip sorted.tail).any fun (a, b) => a == b

/-- 同じ写像の前のキーを繰り返すキーをどれも書き留める。あれば真。 -/
def duplicates (pairs : List (Node × Node)) : Decode Bool := do
  let keys := pairs.map (·.1)
  if !hasRepeat (keys.map (·.keyView)) then return false
  let found := (keys.zipIdx).flatMap fun (k, i) =>
    ((keys.drop (i + 1)).filter (·.keyView == k.keyView)).map fun k' =>
      Mismatch.duplicateKey k'.line k'.keyView.2 k.line
  found.forM mismatch
  return !found.isEmpty

/-- スカラーの値: null ならなし、それ以外は文字列のバイト (`!!binary`
のもとではそれが表すバイト)。文字列が解決しない標準のタグはすべてを止める (`<<`
は合併のタグに解決する)。符号つき 64 ビットの値を持つ整数は倍精度として通る。 -/
def scalarValue (text : String) (style : ScalarStyle) (tag : Option Tag) :
    Decode (Option (List Nat)) :=
  match tag with
  | none =>
    return if style == .plain && Tag.ofPlain text == .null then none else some (Text.bytesOf text)
  | some .str => return some (Text.bytesOf text)
  | some .binary =>
    match Text.decodeBase64 text with
    | some bytes => return some bytes
    | none => throw .badBinary
  | some t =>
    if [Tag.null, .bool, .int, .float, .timestamp].contains t then
      let found := if text == "<<" then Tag.merge else Tag.resolve (t == .timestamp) text
      if found == t then return if t == .null then none else some (Text.bytesOf text)
      else if t == .float && found == .int &&
          Tag.isSignedInteger (text.toList.filter (· != '_')) then return some (Text.bytesOf text)
      else throw (.cannotDecode found text t)
    else return some (Text.bytesOf text)

/-- 文字列 (そのバイト) として読んだ節点: スカラーの値。集まりは合わない。 -/
def readText (n : Node) : Decode (Option (List Nat)) := do
  let (n, mark) ← enter n
  let out ← match n with
    | .scalar t style tag _ => scalarValue t style tag
    | .mapping pairs _ _ =>
      if ← duplicates pairs then pure none
      else
        wrongType n .text
        pure none
    | _ =>
      wrongType n .text
      pure none
  leave mark
  return out

/-- 目当ての型なしで読んだ写像が文字列をキーにするかどうか: どのキーも文字列か `<<`。 -/
def isTextKeyed (pairs : List (Node × Node)) : Decode Bool := do
  let tags ← pairs.mapM fun (k, _) => return (← target k).shownTag
  return tags.all fun t => t == .str || t == .merge

/-- `<<` の値が与える合併の源: 写像、その別名、またはそれらの列。
どの源もその番が来たときに確かめる。 -/
def mergeSources (m : Node) : Decode (List Node) := do
  match m with
  | .mapping _ _ _ => return [m]
  | .alias _ _ _ _ =>
    match ← target m with
    | .mapping _ _ _ => return [m]
    | _ => throw .mergeNeedsMap
  | .sequence items _ _ => return items
  | _ => throw .mergeNeedsMap

/-- 合併の源が写像かその別名かを確かめる。 -/
def checkSource (src : Node) : Decode Unit := do
  match src with
  | .mapping _ _ _ => pure ()
  | .alias _ _ _ _ =>
    match ← target src with
    | .mapping _ _ _ => pure ()
    | _ => throw .mergeNeedsMap
  | _ => throw .mergeNeedsMap

/-- どんな型の値としても読んだスカラー: タグを確かめた後、文字列が解決する値。
倍精度のタグのもとの整数は倍精度になる。 -/
def anyScalar (text : String) (style : ScalarStyle) (tag : Option Tag) : Decode Value := do
  match tag with
  | none =>
    return if style == .plain then Value.ofResolved (Tag.ofPlain text) text
      else .text (Text.bytesOf text)
  | some .binary => return .text ((← scalarValue text style tag).getD [])
  | some t =>
    if [Tag.null, .bool, .int, .float, .timestamp].contains t then
      let _ ← scalarValue text style tag
      if t == .float && Tag.resolve false text == .int then
        return (Value.ofResolved .int text).toFloat
      return Value.ofResolved t text
    else return .text (Text.bytesOf text)

/-- 合併がとったキー: 合併の途中で読んだキーの値。新しいものが先頭。 -/
abbrev Taken := List Value

/-- 合併のためにキーをとる: 集まりにはハッシュがなく、読み取りは落ちる。 -/
def takeKey (key : Value) (taken : Taken) : Decode Taken :=
  if key.isCollection then throw (.unhashableKey key.typeName) else return key :: taken

mutual

/-- 節点をどんな型の値としても読む。合併はとるキーを数える (`taken`。合併の途中でなければ `none`)。
値 (読み取りが失敗した、キーの繰り返された写像ならなし) と、その後にとったキーを返す。 -/
def readAny (taken : Option Taken) : Nat → Node → Decode (Option Value × Option Taken)
  | 0, _ => return (none, taken)
  | fuel + 1, n => do
    let (m, mark) ← enter n
    let out ← match m with
      | .sequence items _ _ => do
        let mut values : Array Value := #[]
        let mut taken := taken
        for item in items do
          let (v, t) ← readAny taken fuel item
          taken := t
          if let some v := v then values := values.push v
        pure (some (Value.list values.toList), taken)
      | .mapping pairs _ _ => do
        if ← duplicates pairs then pure (none, taken)
        else
          let byText ← isTextKeyed pairs
          let (entries, taken) ← fillAny taken byText true fuel pairs []
          pure (some (Value.table byText entries), taken)
      | .scalar t style tag _ => pure (some (← anyScalar t style tag), taken)
      | .alias _ _ _ _ => pure (none, taken)
    leave mark
    return out

/-- 組を表の項目に読む。キーは文字列 (`byText`) か、どんな型の値でもよく、合併はとるキーを数える
(`taken`)。キーと値は合併のない状態で読む。合併が既にとったキーは飛ばし、新しいキーはとる。
集まりのキーにはハッシュがなく、読み取りを落とす。飛ばさない集まりは正しいキーでなく、
すべてを止める。読めない値は落とすが、型が null でキーが新しいとき (`fresh`: 表がその写像自身の
もの) は残す。組の後の `<<` は、合併の途中でなければ組のどのキーもとる合併を始め、その源を同じ
項目に読む。 -/
def fillAny (taken : Option Taken) (byText fresh : Bool) :
    Nat → List (Node × Node) → List (Value × Value) → Decode (List (Value × Value) × Option Taken)
  | 0, _, entries => return (entries, taken)
  | fuel + 1, pairs, entries => do
    let mut entries := entries
    let mut taken := taken
    for (k, v) in pairs do
      if !k.isMergeKey then
        let key ← if byText then pure ((← readText k).map Value.text)
          else pure (← readAny none fuel k).1
        if let some key := key then
          let passed ← match taken with
            | some ks =>
              if ks.any (Value.sameKey · key) then pure true
              else
                taken := some (← takeKey key ks)
                pure false
            | none => pure false
          if !passed then
            if key.isCollection then throw (.invalidMapKey key.literal)
            match (← readAny none fuel v).1 with
            | some value => entries := Value.insertEntry key value entries
            | none =>
              if (← target v).shownTag == .null &&
                  (fresh || !entries.any (Value.sameKey ·.1 key)) then
                entries := Value.insertEntry key .null entries
    match (pairs.filter (·.1.isMergeKey)).getLast? with
    | none => return (entries, taken)
    | some (_, src) =>
      let mut merged ← match taken with
        | some ks => pure ks
        | none => takeKeys fuel pairs
      for s in ← mergeSources src do
        checkSource s
        let (sn, mark) ← enter s
        match sn with
        | .mapping ps _ _ =>
          if !(← duplicates ps) then
            let (es, t) ← fillAny (some merged) byText false fuel ps entries
            entries := es
            merged := t.getD merged
        | _ => pure ()
        leave mark
      return (entries, taken.map fun _ => merged)

/-- 合併が始まるときにとるキー: 写像のどのキーもどんな型の値としても読み、
それぞれはその前のキーをとった状態で読む (写像のキーは自分のキーもとる)。 -/
def takeKeys : Nat → List (Node × Node) → Decode Taken
  | 0, _ => return []
  | fuel + 1, pairs =>
    pairs.foldlM (fun ks (k, _) => do
      let (v, t) ← readAny (some ks) fuel k
      let ks := t.getD ks
      match v with
      | some v => takeKey v ks
      | none => return ks) []

end

/-- null が数えられるところで、節点が null と読まれるかどうか: その型が null。 -/
def isNullNode (n : Node) : Decode Bool := do
  return (← target n).shownTag == .null

/-- 写像の組を値に置く: どのキーも文字列として読み、その値を置く。合併が既にとったキーは飛ばす。
記録では、二度名指した欄は合わないことで、ほかのキーは飛ばす。組の後に、最後の `<<` のキーの写像
(一つでも複数でも) の組が来て、まだ見ていないキーだけを置く。`seen` は合併の途中でとったキーを持ち、
増えて戻る。 -/
def fill {σ : Type} (put : Bool → List Nat → Node → σ → Decode σ)
    (record : Option (Slot × List String)) : Nat → Bool → List (Node × Node) →
      Option Taken → σ → Decode (σ × Option Taken)
  | 0, _, _, seen, acc => return (acc, seen)
  | fuel + 1, merging, pairs, seen, acc => do
    let (acc, seen, _, source) ← List.foldlM (fun (acc, seen, done, source) (k, v) => do
        if k.isMergeKey then return (acc, seen, done, some v)
        match ← readText k with
        | none => return (acc, seen, done, source)
        | some name =>
          let (taken, seen) := match seen with
            | some names =>
              if names.any (Value.sameKey · (.text name)) then (true, seen)
              else (false, some (.text name :: names))
            | none => (false, none)
          if taken then return (acc, seen, done, source)
          match record with
          | some (slot, fields) =>
            if !fields.any (Text.bytesOf · == name) then return (acc, seen, done, source)
            if done.contains name then
              mismatch (.fieldSet k.line (Text.ofUtf8Lossy name) slot)
              return (acc, seen, done, source)
            return (← put merging name v acc, seen, done ++ [name], source)
          | none => return (← put merging name v acc, seen, done, source))
        (acc, seen, ([] : List (List Nat)), (none : Option Node)) pairs
    match source with
    | none => return (acc, seen)
    | some m =>
      let names ← match seen with
        | some names => pure names
        | none => takeKeys fuel pairs
      let sources ← mergeSources m
      let (acc, names) ← List.foldlM (fun (acc, names) (src : Node) => do
          checkSource src
          let (src, mark) ← enter src
          let out ← match src with
            | .mapping ps _ _ =>
              if ← duplicates ps then pure (acc, names)
              else
                let (acc, names') ← fill put record fuel true ps (some names) acc
                pure (acc, names'.getD names)
            | _ => pure (acc, names)
          leave mark
          return out) (acc, names) sources
      return (acc, seen.map fun _ => names)

/-- 文字列の列として読んだ節点: null は何も与えず、スカラーと写像も合わないので何も与えない。
列なら、文字列として読める項目。 -/
def readTexts (n : Node) : Decode (Option (List (List Nat))) := do
  let (n, mark) ← enter n
  let out ← match n with
    | .scalar t style tag _ =>
      match ← scalarValue t style tag with
      | none => pure none
      | some _ =>
        wrongType n .texts
        pure none
    | .mapping pairs _ _ =>
      if ← duplicates pairs then pure none
      else
        wrongType n .texts
        pure none
    | .sequence items _ _ => pure (some ((← items.mapM readText).filterMap id))
    | .alias _ _ _ _ => pure none
  leave mark
  return out

/-- 文字列の写像に組を一つ置く: 文字列の値か、null の値なら空の文字列
(合併の途中ではキーがまだないときだけ)。 -/
def putText (merging : Bool) (name : List Nat) (v : Node) (m : TextMap) : Decode TextMap := do
  let value ← match ← readText v with
    | some s => pure (some s)
    | none =>
      if (← isNullNode v) && !(merging && m.contains name) then pure (some []) else pure none
  match value with
  | some s => return m.insert name s
  | none => return m

/-- 文字列の写像として読んだ節点: null は何も与えず、スカラーと列は合わない。 -/
def readTextMap (fuel : Nat) (n : Node) : Decode (Option TextMap) := do
  let (n, mark) ← enter n
  let out ← match n with
    | .scalar t style tag _ =>
      match ← scalarValue t style tag with
      | none => pure none
      | some _ =>
        wrongType n .textMap
        pure none
    | .sequence _ _ _ =>
      wrongType n .textMap
      pure none
    | .mapping pairs _ _ =>
      if ← duplicates pairs then pure none
      else pure (some (← fill putText none fuel false pairs none ∅).1)
    | .alias _ _ _ _ => pure none
  leave mark
  return out

/-- 空の規則。 -/
def Rule.empty : Rule := ⟨[], [], [], "", "", none, none, none, none⟩

/-- 規則の写像が読むキー。 -/
def ruleFields : List String :=
  ["prefix", "path", "method", "default", "override", "set", "delete", "query", "headers"]

/-- 規則の写像のキーを一つ、規則に置く。 -/
def Rule.put (fuel : Nat) (_ : Bool) (name : List Nat) (v : Node) (r : Rule) : Decode Rule := do
  let text (f : List Nat → Rule) : Decode Rule := do
    match ← readText v with
    | some s => return f s
    | none => return r
  match Text.ofUtf8Lossy name with
  | "prefix" => text fun s => { r with pathPrefix := s }
  | "path" => text fun s => { r with path := s }
  | "method" => text fun s => { r with method := s }
  | "default" => text fun s => { r with fallback := Text.ofUtf8 s }
  | "override" => text fun s => { r with override := Text.ofUtf8 s }
  | "set" => return { r with set := ← readTextMap fuel v }
  | "delete" => return { r with delete := (← readTexts v).map (·.map Text.ofUtf8) }
  | "query" => return { r with query := ← readTextMap fuel v }
  | "headers" => return { r with headers := ← readTextMap fuel v }
  | _ => return r

/-- 一つの規則として読んだ節点。null と合わないものは何も与えない。 -/
def readRule (fuel : Nat) (n : Node) : Decode (Option Rule) := do
  let (n, mark) ← enter n
  let out ← match n with
    | .scalar t style tag _ =>
      match ← scalarValue t style tag with
      | none => pure none
      | some _ =>
        wrongType n .rule
        pure none
    | .sequence _ _ _ =>
      wrongType n .rule
      pure none
    | .mapping pairs _ _ =>
      if ← duplicates pairs then pure none
      else pure (some (← fill (Rule.put fuel) (some (.rule, ruleFields)) fuel false pairs none
        Rule.empty).1)
    | .alias _ _ _ _ => pure none
  leave mark
  return out

/-- 規則の列として読んだ節点。null と合わないものは何も与えない。 -/
def readRules (fuel : Nat) (n : Node) : Decode (Option (List Rule)) := do
  let (n, mark) ← enter n
  let out ← match n with
    | .scalar t style tag _ =>
      match ← scalarValue t style tag with
      | none => pure none
      | some _ =>
        wrongType n .rules
        pure none
    | .mapping pairs _ _ =>
      if ← duplicates pairs then pure none
      else
        wrongType n .rules
        pure none
    | .sequence items _ _ => pure (some ((← items.mapM (readRule fuel)).filterMap id))
    | .alias _ _ _ _ => pure none
  leave mark
  return out

/-- 一番上の写像のキーを一つ置く: `rules` だけが数える。 -/
def putRules (fuel : Nat) (_ : Bool) (name : List Nat) (v : Node) (rs : Option (List Rule)) :
    Decode (Option (List Rule)) :=
  if name == Text.bytesOf "rules" then readRules fuel v else pure rs

/-- 文書の根の節点の規則。 -/
def readConfig (fuel : Nat) (root : Node) : Decode (Option (List Rule)) := do
  let (n, mark) ← enter root
  let out ← match n with
    | .scalar t style tag _ =>
      match ← scalarValue t style tag with
      | none => pure none
      | some _ =>
        wrongType n .config
        pure none
    | .sequence _ _ _ =>
      wrongType n .config
      pure none
    | .mapping pairs _ _ =>
      if ← duplicates pairs then pure none
      else pure (← fill (putRules fuel) (some (.config, ["rules"])) fuel false pairs none none).1
    | .alias _ _ _ _ => pure none
  leave mark
  return out

/-- 規則のファイルが持つ規則。名前と文字列 (ないときは `none`) を与え、確かめる前のもの:
文書を読み、その値を規則の欄と照らす。 -/
def readRulesFile (file : String) (text : Option String) : Except LoadError (List Rule) :=
  match text with
  | none => .error (.missing file)
  | some t =>
    match parseDocument t with
    | .error e => .error (.malformed file e)
    | .ok none => .ok []
    | .ok (some doc) =>
      match ((readConfig ((t.length + 2) * (t.length + 2)) doc.root).run doc.anchored).run
          ⟨[], [], 1, 0⟩ with
      | .error (.unhashableKey t) => .error (.crashed (.unhashableKey t))
      | .error f => .error (.fatal file f)
      | .ok (rules, ⟨[], _, _, _⟩) => .ok (rules.getD [])
      | .ok (_, r) => .error (.mismatches file r.mismatches.reverse)

/-- 読んだ規則を確かめたもの。 -/
def validated (rules : List Rule) : Except LoadError (List Rule) :=
  match validate rules with
  | some b => .error (.invalid b)
  | none => .ok rules

/-- 規則のファイルの規則。名前と文字列を与えて、読んでから確かめる。 -/
def loadRules (file : String) (text : Option String) : Except LoadError (List Rule) :=
  (readRulesFile file text).bind validated

end HttpCaching.Rules
