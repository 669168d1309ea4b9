import HttpCaching.Directive.Directives
/-!
# ディレクティブの説明

コマンド行が標準出力に書く説明。一行目に値全体、続いて各ディレクティブを一行ずつ
(引数のあるものは `名前 = 引数 (種類)`)、最後に読み取った値を人に読める形で書く。
要求では max-age・max-stale・min-fresh、応答では max-age・s-maxage・private。
-/
namespace HttpCaching.Cli

/-- ディレクティブごとに一行、それから max-age の読み取り。 -/
def directiveLines (d : Directives) : List String :=
  (d.toList.map fun x => match x.arg with
    | .flag => "  " ++ x.name
    | a => "  " ++ x.name ++ " = " ++ a.text ++ " (" ++ a.kindName ++ ")") ++
  (match d.maxAge? with
    | some age => ["  max age: " ++ age.toText]
    | none => [])

/-- 要求のディレクティブの説明。 -/
def describeRequest (d : Directives) : List String :=
  ["Request: " ++ d.render] ++ directiveLines d ++
  (match d.maxStale? with
    | some s => ["  max stale: " ++ s.text]
    | none => []) ++
  (match d.minFresh? with
    | some age => ["  min fresh: " ++ age.toText]
    | none => [])

/-- 応答のディレクティブの説明。 -/
def describeResponse (d : Directives) : List String :=
  ["Response: " ++ d.render] ++ directiveLines d ++
  (match d.sMaxAge? with
    | some age => ["  shared max age: " ++ age.toText]
    | none => []) ++
  (match d.privateFields? with
    | some f => ["  private: " ++ Text.quoteLiteral f]
    | none => [])

end HttpCaching.Cli
