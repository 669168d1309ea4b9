import HttpCaching.Directive.Binding
import HttpCaching.Field.Read
import HttpCaching.Http.Target
import HttpCaching.Policy.Canonical
import HttpCaching.Log
import HttpCaching.KeyMap
/-!
# 書き換えの規則

規則は当てはまる応答の Cache-Control を書き換える。`override` は全体を置き換え、
`fallback` はディレクティブが一つもないときだけ使う。その後 `set` を名前の順に一つずつ
(空の値は引数なし)、`delete` を並びの順に当てる。規則の選び方は最初に当てはまるもの:
方法 (空なら GET だけ)、パスの一致、接頭辞、問い合わせ (空の値なら名前があること、
それ以外は最初の値が等しいこと)。状態コード 200 の応答だけを書き換える。
-/
namespace HttpCaching.Rules

/-- 文字列から文字列への写像。文字列はバイト列。 -/
abbrev TextMap : Type := KeyMap (List Nat) (List Nat)

/-- テキストの組を UTF-8 のバイト列にして順に置いた写像。 -/
def TextMap.ofTexts (l : List (String × String)) : TextMap :=
  KeyMap.ofList (l.map fun p => (Text.bytesOf p.1, Text.bytesOf p.2))

/-- 書き換えの規則。ない写像と列は `none`。要求と照らすもの (接頭辞、パス、方法、問い合わせ)
はバイト: 規則のファイルはそこにどんなバイトでも書けるから。 -/
structure Rule where
  pathPrefix : List Nat
  path : List Nat
  method : List Nat
  fallback : String
  override : String
  set : Option TextMap
  delete : Option (List String)
  query : Option TextMap
  headers : Option TextMap
  deriving DecidableEq, Inhabited, Repr

/-- 保存された方針のディレクティブで上書きする規則。 -/
def Rule.ofPolicy (p : Policy) : Rule :=
  ⟨Text.bytesOf p.pathPrefix, [], [], "", p.cacheControl, none, none, none, none⟩

/-- trace の記録。 -/
def note (message : String) : Log.Entry := ⟨.trace, [], message⟩

/-- Cache-Control フィールドへの書き込みの trace の記録。 -/
def updatedNote (value : String) : Log.Entry :=
  ⟨.trace, [("cacheControl", .text value)], "Cache-Control header updated"⟩

/-- 規則を当てて起きたこと: 後のディレクティブ、それがヘッダーのフィールドに結びついているか
(その書き込みは trace する)、書き込みがあったか、止めた失敗、歩の trace。失敗の前の書き込み
は残る。 -/
structure Applied where
  directives : Directives
  bound : Bool
  wrote : Bool
  failure : Option DirectiveError
  trace : Array Log.Entry

namespace Applied

/-- もう一つ書き込む。失敗で規則が止まっていれば何もしない。結びついたディレクティブへの書き込みが成
功すれば、残ったフィールドの値とともに trace する。 -/
def andThen (a : Applied) (w : Directives → Except DirectiveError Directives) : Applied :=
  match a.failure with
  | some _ => a
  | none =>
    match w a.directives with
    | .ok d => ⟨d, a.bound, true, none, if a.bound then a.trace.push (updatedNote d.render) else a.trace⟩
    | .error e => { a with failure := some e }

/-- これからとる歩を trace する。失敗で規則が止まっていれば何もしない。 -/
def note (a : Applied) (message : String) : Applied :=
  match a.failure with
  | some _ => a
  | none => { a with trace := a.trace.push (Rules.note message) }

end Applied

/-- ディレクティブをすべてフィールドの値のものに置き換える。先に新しい応答のディレクティブで確かめる
ので、悪い値は何も変えない。 -/
def replace (a : Applied) (value : String) : Applied :=
  match a.failure with
  | some _ => a
  | none =>
    let pairs := Field.read [value]
    match (Directives.empty .response).update pairs with
    | .error e => { a with failure := some e }
    | .ok _ => (a.andThen Directives.clear).andThen (·.update pairs)

/-- `set` の項目を名前のバイト順に。 -/
def sortedSets (sets : TextMap) : List (List Nat × List Nat) :=
  sets.toList.mergeSort fun a b => Text.compareBytes a.1 b.1 != .gt

/-- `set` の項目の値: 空のテキストは引数のないディレクティブを置く。 -/
def setOperand (v : List Nat) : Operand := if v.isEmpty then .bool true else .text (Text.ofUtf8 v)

/-- 規則のディレクティブの変更を、ヘッダーのフィールドに結びついているかどうかを添えて、
ディレクティブに当てる。 -/
def Rule.applyTo (r : Rule) (d : Directives) (bound : Bool) : Applied :=
  let a : Applied := ⟨d, bound, false, none, #[]⟩
  let a :=
    if !r.override.isEmpty then replace (a.note "Overriding Cache-Control header") r.override
    else if !r.fallback.isEmpty && d.size == 0 then
      replace (a.note "Applying default Cache-Control header") r.fallback
    else a
  let a := (sortedSets (r.set.getD ∅)).foldl (fun a (n, v) =>
    (a.note ("Setting directive " ++ Text.ofUtf8 n)).andThen (·.set (Text.ofUtf8 n) (setOperand v))) a
  (r.delete.getD []).foldl (fun a n => (a.note ("Deleting directive " ++ n)).andThen (·.delete n)) a

/-- どのヘッダーにも結びついていない空の応答のディレクティブに当てて、規則を確かめる。 -/
def Rule.check (r : Rule) : Option DirectiveError :=
  (r.applyTo (Directives.empty .response) false).failure

/-- 規則の列が正しくないわけ: 最初の悪い規則の番号とその失敗。 -/
structure BadRule where
  index : Nat
  cause : DirectiveError

/-- 悪い規則の文。 -/
def BadRule.message (b : BadRule) : String := "rule " ++ toString b.index ++ ": " ++ b.cause.message

/-- 規則をどれも順に確かめる。 -/
def validate (rules : List Rule) : Option BadRule :=
  let rec go (i : Nat) : List Rule → Option BadRule
    | [] => none
    | r :: rs => match r.check with
      | some e => some ⟨i, e⟩
      | none => go (i + 1) rs
  go 0 rules

/-- 規則を順に確かめた trace。最初の悪い規則まで。 -/
def checkTrace : List Rule → List Log.Entry
  | [] => []
  | r :: rs =>
    let a := r.applyTo (Directives.empty .response) false
    a.trace.toList ++ (if a.failure.isSome then [] else checkTrace rs)

/-- 規則が要求に当てはまるかどうか。 -/
def Rule.matches (r : Rule) (req : Http.Request) : Bool :=
  (if r.method.isEmpty then req.method == "GET" else r.method == Text.bytesOf req.method) &&
  (r.path.isEmpty || req.target.pathIs r.path) &&
  (r.pathPrefix.isEmpty || req.target.pathStartsWith r.pathPrefix) &&
  (r.query.getD ∅).toList.all fun (n, v) =>
    if v.isEmpty then req.target.hasParam n else req.target.paramIs n v

/-- 要求に当てはまる最初の規則。 -/
def find? (rules : List Rule) (req : Http.Request) : Option Rule := rules.find? (·.matches req)

/-- 応答のヘッダーを書き換えた結果: ヘッダー、規則を止めた失敗、歩の trace。 -/
structure Rewrite where
  header : Http.Header
  failure : Option DirectiveError
  trace : List Log.Entry

/-- 規則を応答のヘッダーに当てる: 書き込みのたびに Cache-Control フィールドを書き直し、
それから規則のヘッダーのフィールドを置く。 -/
def Rule.applyToHeader (r : Rule) (h : Http.Header) : Rewrite :=
  let a := r.applyTo (Directives.ofHeader h) true
  let h := if !a.wrote then h else a.directives.syncHeader h
  match a.failure with
  | some e => ⟨h, some e, a.trace.toList⟩
  | none =>
    let (h, trace) := (r.headers.getD ∅).toList.foldl (fun (h, t) (n, v) =>
      (h.set (Text.ofUtf8 n) (Text.ofUtf8 v), t.push (note ("Setting header " ++ Text.ofUtf8 n))))
      (h, a.trace)
    ⟨h, none, trace.toList⟩

/-- バイト列がもう一方より前か等しいかどうか。バイトごとに比べる。 -/
def octetsLE : List Nat → List Nat → Bool
  | [], _ => true
  | _ :: _, [] => false
  | a :: as, b :: bs => a < b || (a == b && octetsLE as bs)

/-- 最初の部分のバイト順に並んだ列に、組を入れる。 -/
def insertPair (p : List Nat × List Nat) : List (List Nat × List Nat) → List (List Nat × List Nat)
  | [] => [p]
  | q :: qs => if octetsLE p.1 q.1 then p :: q :: qs else q :: insertPair p qs

/-- trace に見せるバイトの写像: `map[k:v k:v]`。鍵の順。 -/
def mapText (m : Option TextMap) : String :=
  "map[" ++ " ".intercalate (((m.getD ∅).toList.foldr insertPair []).map fun (k, v) =>
    Text.ofUtf8Lossy k ++ ":" ++ Text.ofUtf8Lossy v) ++ "]"

/-- trace に見せるテキストの列: `[a b]`。 -/
def listText (xs : Option (List String)) : String := "[" ++ " ".intercalate (xs.getD []) ++ "]"

/-- trace に見せる規則。どの欄も名前をつけて。 -/
def Rule.text (r : Rule) : String :=
  "\x7bPrefix:" ++ Text.ofUtf8Lossy r.pathPrefix ++ " Path:" ++ Text.ofUtf8Lossy r.path ++
    " Method:" ++ Text.ofUtf8Lossy r.method ++ " Default:" ++ r.fallback ++
    " Override:" ++ r.override ++ " Set:" ++ mapText r.set ++
    " Delete:" ++ listText r.delete ++ " Query:" ++ mapText r.query ++
    " Headers:" ++ mapText r.headers ++ "\x7d"

/-- 要求に当てはまる最初の規則と、試した規則ごとの trace の記録。 -/
def findTraced (req : Http.Request) : List Rule → List Log.Entry × Option Rule
  | [] => ([], none)
  | r :: rs =>
    let n := note ("Checking rule " ++ r.text)
    if r.matches req then ([n], some r)
    else
      let (ns, found) := findTraced req rs
      (n :: ns, found)

/-- 状態コード 200 の応答のヘッダーを、当てはまる最初の規則で書き換える。 -/
def applyRules (rules : List Rule) (status : Int) (req : Http.Request) (h : Http.Header) :
    Rewrite :=
  if status != 200 then ⟨h, none, []⟩
  else
    let finding := note ("Finding rule for request " ++ req.method ++ ":" ++ req.target.path)
    match findTraced req rules with
    | (checked, some r) =>
      let w := r.applyToHeader h
      { w with trace := finding :: checked ++ w.trace }
    | (checked, none) => ⟨h, none, finding :: checked⟩

/-- 接頭辞が同じ長さ以上のどの規則よりも後に、規則を入れる。 -/
def insertByPrefix (r : Rule) : List Rule → List Rule
  | [] => [r]
  | x :: xs =>
    if x.pathPrefix.length ≥ r.pathPrefix.length then x :: insertByPrefix r xs
    else r :: x :: xs

/-- 保存された方針を上書きする規則。接頭辞の (バイトで) 長いものから並べ、同じ長さは順を保つ。 -/
def ofPolicies (ps : List Policy) : List Rule :=
  (ps.map Rule.ofPolicy).foldl (fun acc r => insertByPrefix r acc) []

end HttpCaching.Rules
