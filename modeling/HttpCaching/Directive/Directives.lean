import HttpCaching.Directive.Coerce
import HttpCaching.Directive.Entries
import HttpCaching.Directive.Name
/-!
# ディレクティブの集まり

要求の Cache-Control (読むだけ)、応答の Cache-Control (書ける)、どちらでもない一般の集まりの
三つの役割を持つ表。書き込みは成功すれば必ず表を変えたものとして扱い、見張り役へ知らせる
(`reset` だけは知らせない)。`provided` は一度でもディレクティブが与えられたかを覚える。
-/
namespace HttpCaching

/-- ディレクティブの集まりが何に属するか。できる操作はこれで決まる。 -/
inductive Role where
  /-- 要求とともに届いたディレクティブ。書き込めない。 -/
  | request
  /-- 作りかけの応答のディレクティブ。 -/
  | response
  /-- どちらにも属さないディレクティブ。複製はどれもこれになる。 -/
  | plain
  deriving DecidableEq, Repr, Inhabited

/-- Cache-Control のディレクティブの集まり。役割と、ディレクティブが一度でも与えられたかどうかを
持つ。 -/
structure Directives where
  role : Role
  entries : Entries
  provided : Bool
  deriving DecidableEq, Repr, Inhabited

/-- `max-stale` の引数: どんな古さでもよいか、ある長さまでか。 -/
inductive Staleness where
  | unbounded
  | atMost (d : Duration)
  deriving DecidableEq, Repr

/-- どんな古さでもよければ `*`、そうでなければ秒の整数。 -/
def Staleness.text : Staleness → String
  | .unbounded => "*"
  | .atMost d => toString d.seconds.toInt

namespace Directives

/-! ## 作る -/

/-- ディレクティブの列から作る表: 名前は正規形にし、空の名前は落とし、繰り返された名前は
最初の位置に最後の引数で残る。 -/
def entriesOf (pairs : List Directive) : Entries :=
  Entries.empty.putAll ((pairs.map fun d => { d with name := Directive.normalizeName d.name }).filter
    fun d => !d.name.isEmpty)

/-- 列から検査せずに作る集まり。ディレクティブが一つでもあれば、与えられたものとする。 -/
def ofList (role : Role) (pairs : List Directive) : Directives :=
  let e := entriesOf pairs
  ⟨role, e, e.size > 0⟩

/-- ディレクティブがなく、一度も与えられていない集まり。 -/
def empty (role : Role) : Directives := ⟨role, Entries.empty, false⟩

/-! ## 読む -/

/-- ディレクティブの引数。名前はどんな綴りで引いてもよい。 -/
def get? (d : Directives) (name : String) : Option Argument :=
  d.entries.get? (Directive.normalizeName name)

/-- ディレクティブがあるかどうか。 -/
def has (d : Directives) (name : String) : Bool := (d.get? name).isSome

/-- ディレクティブの数。 -/
def size (d : Directives) : Nat := d.entries.size

/-- 名前の並び。 -/
def names (d : Directives) : List String := d.entries.names

/-- ディレクティブを順に並べた列。 -/
def toList (d : Directives) : List Directive := d.entries.toList

/-- 最初に `stop` という名前を持つディレクティブまで (それを含む) の列。 -/
def visitUntil (stop : String) : List Directive → List Directive
  | [] => []
  | x :: r => if x.name == stop then [x] else x :: visitUntil stop r

/-- Cache-Control フィールドの値。 -/
def render (d : Directives) : String := d.entries.render

/-- `<役割の名前 "フィールドの値">`。 -/
def describe (d : Directives) : String :=
  let tag := match d.role with
    | .request => "RequestDirectives"
    | .response => "ResponseDirectives"
    | .plain => "Directives"
  "<" ++ tag ++ " " ++ Text.quoteLiteral d.render ++ ">"

/-- 存在だけを見るディレクティブがあるかどうか。 -/
def flag (d : Directives) (name : String) : Bool := d.entries.contains name

/-- delta-seconds の引数を、2^31 秒までの長さとして読む。数でない引数と負の数は、ないと読む。 -/
def delta? (d : Directives) (name : String) : Option Duration :=
  match d.entries.get? name >>= Argument.number? with
  | some n => if n < 0 then none else some (Duration.ofSeconds (min n Field.maxDeltaSeconds))
  | none => none

/-- フィールド一覧の引数。引数のないディレクティブは空の一覧と読む。 -/
def fields? (d : Directives) (name : String) : Option String :=
  (d.entries.get? name).map Argument.text

def noCache? (d : Directives) : Option String := d.fields? "no-cache"
def noStore (d : Directives) : Bool := d.flag "no-store"
def maxAge? (d : Directives) : Option Duration := d.delta? "max-age"
def noTransform (d : Directives) : Bool := d.flag "no-transform"
def mustRevalidate (d : Directives) : Bool := d.flag "must-revalidate"
def mustUnderstand (d : Directives) : Bool := d.flag "must-understand"
def privateFields? (d : Directives) : Option String := d.fields? "private"
def proxyRevalidate (d : Directives) : Bool := d.flag "proxy-revalidate"
def isPublic (d : Directives) : Bool := d.flag "public"
def sMaxAge? (d : Directives) : Option Duration := d.delta? "s-maxage"
def immutable (d : Directives) : Bool := d.flag "immutable"
def staleWhileRevalidate? (d : Directives) : Option Duration := d.delta? "stale-while-revalidate"
def staleIfError? (d : Directives) : Option Duration := d.delta? "stale-if-error"
def minFresh? (d : Directives) : Option Duration := d.delta? "min-fresh"
def onlyIfCached (d : Directives) : Bool := d.flag "only-if-cached"

/-- `max-stale`: 引数がない、`*`、数でない引数は、どんな古さでもよいと読む。 -/
def maxStale? (d : Directives) : Option Staleness :=
  match d.entries.get? "max-stale" with
  | none => none
  | some a =>
    if a == .flag || a.text == "*" then some .unbounded
    else match a.number? with
      | some n => some (.atMost (Duration.ofSeconds (min n Field.maxDeltaSeconds)))
      | none => some .unbounded

/-! ## 書く -/

/-- 書き込みが成功した後の集まり: 表を置き換え、以後は与えられたものとする。 -/
def changed (d : Directives) (e : Entries) : Directives := { d with entries := e, provided := true }

/-- 変換の結果に従って、ディレクティブを置くか除く。 -/
def store (e : Entries) (name : String) : Option Argument → Entries
  | some a => e.put ⟨name, a⟩
  | none => e.erase name

/-- 汎用の変換でディレクティブを書く。名前は正規形にしてトークンでなければならない。 -/
def set (d : Directives) (name : String) (o : Operand) : Except DirectiveError Directives :=
  if d.role == .request then .error (.immutable "set" name)
  else
    let n := Directive.normalizeName name
    if !Field.isToken n then .error (.badName n)
    else do
      let a ← Directive.coerce n o
      pure (d.changed (store d.entries n a))

/-- ディレクティブを除く。ないものを除いても書き込みとして数える。 -/
def delete (d : Directives) (name : String) : Except DirectiveError Directives :=
  if d.role == .request then .error (.immutable "delete" name)
  else .ok (d.changed (d.entries.erase (Directive.normalizeName name)))

/-- ディレクティブをすべて除く。 -/
def clear (d : Directives) : Except DirectiveError Directives :=
  if d.role == .request then .error (.immutable "clear" "*")
  else .ok (d.changed Entries.empty)

/-- どの組も `set` と同じように順に検査し、それぞれが保存するものを返す。 -/
def checkAll : List Directive → Except DirectiveError (List (String × Option Argument))
  | [] => .ok []
  | p :: r => do
    let n := Directive.normalizeName p.name
    if !Field.isToken n then throw (.badName n)
    let a ← Directive.coerce n (.argument p.arg)
    let rest ← checkAll r
    pure ((n, a) :: rest)

/-- すべての組をまとめて書く: どれかの組が退けられれば何も変わらない。 -/
def update (d : Directives) (pairs : List Directive) : Except DirectiveError Directives :=
  if d.role == .request then .error (.immutable "update" ((pairs.head?.map (·.name)).getD ""))
  else do
    let checked ← checkAll pairs
    pure (d.changed (checked.foldl (fun e p => store e p.1 p.2) d.entries))

/-- 作るときと同じ読み方で、検査せずにディレクティブをすべて置き換える。見張り役には知らせない。 -/
def reset (d : Directives) (pairs : List Directive) : Directives :=
  let e := entriesOf pairs
  { d with entries := e, provided := d.provided || e.size > 0 }

/-- 独立した複製。要求にも応答にも属さない。 -/
def copy (d : Directives) : Directives := { d with role := .plain }

/-- 存在だけを見るディレクティブを置くか除く。 -/
def setFlag (d : Directives) (name : String) (on : Bool) : Directives :=
  d.changed (if on then d.entries.put ⟨name, .flag⟩ else d.entries.erase name)

/-- フィールド一覧のディレクティブを置く。フィールドがなければ引数のない形。フィールド名は
トークンでなければならない。 -/
def setFields (d : Directives) (name : String) (fields : List String) :
    Except DirectiveError Directives :=
  if fields.isEmpty then .ok (d.changed (d.entries.put ⟨name, .flag⟩))
  else if !fields.all Field.isToken then .error (.rejected name (.texts fields))
  else .ok (d.changed (d.entries.put ⟨name, .token (", ".intercalate fields)⟩))

/-- delta-seconds のディレクティブを、長さの秒の整数にして置く。負の長さは退ける。 -/
def setDelta (d : Directives) (name : String) (age : Duration) : Except DirectiveError Directives :=
  if age.ns < 0 then .error (.rejected name (.duration age))
  else .ok (d.changed (d.entries.put ⟨name, .int age.seconds⟩))

/-- 保存されている名前でディレクティブを除く。 -/
def remove (d : Directives) (name : String) : Directives := d.changed (d.entries.erase name)

end Directives

end HttpCaching
