import HttpCaching.Field.Members
import HttpCaching.Directive.Name
import HttpCaching.Directive.Entries
/-!
# Cache-Control フィールドの読み取り

`cache-directive = token [ "=" ( token / quoted-string ) ]` の列を読む。各要素は最初の `=` で
名前と引数に分け、名前は正規形にする。引数が `"` で始まれば引用を外したテキスト、
delta-seconds を取るディレクティブで数字だけなら数、それ以外はテキスト。
同じ名前が再び現れたら、最初の位置のまま最後の引数を取る。
-/
namespace HttpCaching.Field

/-- ディレクティブ名の `=` の後の引数のテキストを読む。 -/
def readArgument (name : String) (raw : String) : Argument :=
  let arg := Text.trimBlank raw
  if arg.toList.head? == some '"' then .token (unquote arg)
  else
    let cls := ArgumentClass.of name
    if cls == .delta || cls == .stale then
      match readDeltaSeconds? arg with
      | some n => .int n
      | none => .token arg
    else .token arg

/-- フィールドの要素を一つ読む: 名前が空なら `none`。 -/
def readMember? (member : String) : Option Directive :=
  let (rawName, rest) := member.toList.span (· != '=')
  let name := Directive.normalizeName (String.ofList rawName)
  if name.isEmpty then none
  else match rest with
    | [] => some ⟨name, .flag⟩
    | _ :: arg => some ⟨name, readArgument name (String.ofList arg)⟩

/-- Cache-Control フィールドのすべての行のディレクティブ。名前が最初に現れた順に、
それぞれ最後の引数で並ぶ。 -/
def read (lines : List String) : List Directive :=
  (Entries.empty.putAll ((lines.flatMap members).filterMap readMember?)).toList

end HttpCaching.Field
