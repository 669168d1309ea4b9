import HttpCaching.Directive.Directives
import HttpCaching.Field.Read
/-!
# 方針の正規形

方針 (policy) は、あるパスの接頭辞に属する応答に使う Cache-Control の値。保存する前に
応答ディレクティブとして検査し、書き出し直した正規形にする。
-/
namespace HttpCaching

/-- パスがある接頭辞で始まる応答に使う Cache-Control の値。 -/
structure Policy where
  pathPrefix : String
  cacheControl : String
  deriving DecidableEq, Inhabited, Repr

namespace Policy

/-- Cache-Control の値が正しい方針でないわけ: テキストと、失敗したディレクティブ。 -/
structure Invalid where
  text : String
  cause : DirectiveError

/-- 正しくない方針の文。 -/
def Invalid.message (e : Invalid) : String :=
  "invalid policy " ++ Text.quoteLiteral e.text ++ ": " ++ e.cause.message

/-- Cache-Control の値を応答のディレクティブとして読み、どのディレクティブも確かめて、
正規形に書き戻す。 -/
def canonicalize (text : String) : Except Invalid String :=
  match (Directives.empty .response).update (Field.read [text]) with
  | .ok d => .ok d.render
  | .error e => .error ⟨text, e⟩

end Policy

end HttpCaching
