import HttpCaching.Directive.Directives
/-!
# 操作の記述と実行

ディレクティブの集まりに対する操作を値として表し (`Call`)、役割ごとにどの操作があるかを
決め (`Call.available`)、一つの操作を実行する (`Directives.perform`)。
型付きの読み書きは名前の引数の種類で形が決まる: 存在だけなら真偽、フィールド一覧なら
テキスト、delta-seconds なら時間、`max-stale` なら `Staleness`。
-/
namespace HttpCaching

/-- ディレクティブの集まりへの一つの操作。 -/
inductive Call where
  | get (name : String)
  | has (name : String)
  | size
  | names
  | provided
  | render
  | describe
  /-- ディレクティブを順に、`stop` という名前のもの (を含む) まで。 -/
  | each (stop : Option String)
  /-- よく知られたディレクティブの型付きの読み取り。 -/
  | read (name : String)
  | set (name : String) (operand : Operand)
  | delete (name : String)
  | clear
  | update (pairs : List Directive)
  | setFlag (name : String) (on : Bool)
  | setFields (name : String) (fields : List String)
  | setDelta (name : String) (age : Duration)
  /-- よく知られたディレクティブの型付きの削除。 -/
  | remove (name : String)
  | reset (pairs : List Directive)
  | copy

/-- 操作の答え。 -/
inductive Reply where
  | done
  | failed (e : DirectiveError)
  /-- その役割にはこの操作がない。 -/
  | unavailable
  | flag (b : Bool)
  | count (n : Nat)
  | text (s : String)
  | names (ns : List String)
  | entries (ds : List Directive)
  | argument (a : Option Argument)
  | fields (f : Option String)
  | duration (d : Option Duration)
  | staleness (s : Option Staleness)
  /-- 複製を作った。番号はセッションがつける。 -/
  | copied

namespace Role

/-- どの役割にも共通の、型付きの読み書きがあるディレクティブ。 -/
def commonTyped : List String := ["no-cache", "no-store", "max-age", "no-transform"]

/-- 役割ごとの、型付きの書き込みがあるディレクティブ。 -/
def typedWrites : Role → List String
  | .plain => commonTyped
  | .response =>
    commonTyped ++ ["must-revalidate", "must-understand", "private", "proxy-revalidate",
      "public", "s-maxage", "immutable", "stale-while-revalidate", "stale-if-error"]
  | .request => []

/-- 役割ごとの、型付きの読み取りがあるディレクティブ。 -/
def typedReads : Role → List String
  | .request => commonTyped ++ ["max-stale", "min-fresh", "only-if-cached", "stale-if-error"]
  | r => r.typedWrites

/-- 文に出る、入れ物の型の名前。 -/
def typeName : Role → String
  | .request => "*rfc9111.RequestDirectives"
  | .response => "*rfc9111.ResponseDirectives"
  | .plain => "*rfc9111.Directives"

/-- 見張り役に知らせる名前。 -/
def watchName : Role → String
  | .request => "request"
  | .response => "response"
  | .plain => "directives"

end Role

/-- 役割がその操作を持つかどうか。 -/
def Call.available (c : Call) (r : Role) : Bool :=
  match c with
  | .read n => r.typedReads.contains n
  | .setFlag n _ | .setFields n _ | .setDelta n _ | .remove n => r.typedWrites.contains n
  | .reset _ | .copy => r != .request
  | _ => true

/-- 操作の結果: 答え、後の集まり、集まりに書き込んだか (見張り役が聞くか)。 -/
structure Outcome where
  reply : Reply
  after : Directives
  wrote : Bool

namespace Directives

/-- 失敗しうる書き込みの結果: 失敗すれば何も変わらない。 -/
def written (d : Directives) : Except DirectiveError Directives → Outcome
  | .ok d' => ⟨.done, d', true⟩
  | .error e => ⟨.failed e, d, false⟩

/-- ディレクティブの型付きの読み取り。形は引数の種類で決まる。 -/
def readTyped (d : Directives) (name : String) : Reply :=
  match ArgumentClass.of name with
  | .flag => .flag (d.flag name)
  | .fields => .fields (d.fields? name)
  | .delta => .duration (d.delta? name)
  | .stale => .staleness d.maxStale?
  | .any => .unavailable

/-- 操作を一つ走らせる。 -/
def perform (d : Directives) (c : Call) : Outcome :=
  if !c.available d.role then ⟨.unavailable, d, false⟩
  else match c with
    | .get n => ⟨.argument (d.get? n), d, false⟩
    | .has n => ⟨.flag (d.has n), d, false⟩
    | .size => ⟨.count d.size, d, false⟩
    | .names => ⟨.names d.names, d, false⟩
    | .provided => ⟨.flag d.provided, d, false⟩
    | .render => ⟨.text d.render, d, false⟩
    | .describe => ⟨.text d.describe, d, false⟩
    | .each none => ⟨.entries d.toList, d, false⟩
    | .each (some s) => ⟨.entries (visitUntil s d.toList), d, false⟩
    | .read n => ⟨d.readTyped n, d, false⟩
    | .set n o => d.written (d.set n o)
    | .delete n => d.written (d.delete n)
    | .clear => d.written d.clear
    | .update ps => d.written (d.update ps)
    | .setFlag n on => ⟨.done, d.setFlag n on, true⟩
    | .setFields n fs => d.written (d.setFields n fs)
    | .setDelta n age => d.written (d.setDelta n age)
    | .remove n => ⟨.done, d.remove n, true⟩
    | .reset ps => ⟨.done, d.reset ps, false⟩
    | .copy => ⟨.copied, d, false⟩

end Directives

end HttpCaching
