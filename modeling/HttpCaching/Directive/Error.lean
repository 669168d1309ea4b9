import HttpCaching.Directive.Operand
import HttpCaching.Text.Literal
/-!
# ディレクティブ操作の失敗

失敗の原因は三つ: トークンでない名前、ディレクティブに合わない値、要求側の表への書き込み。
文言は `message` だけが決める。
-/
namespace HttpCaching

/-- ディレクティブの操作の失敗が、呼び出し側にとって何を意味するか。 -/
inductive ErrorKind where
  /-- ディレクティブが受け付けない引数か名前。 -/
  | invalidArgument
  /-- 変えられないディレクティブへの書き込み。 -/
  | immutable
  /-- ほかの失敗。 -/
  | other
  deriving DecidableEq, Repr

/-- ディレクティブの操作が失敗したわけ。 -/
inductive DirectiveError where
  /-- 正規形にした名前がトークンでない。 -/
  | badName (name : String)
  /-- ディレクティブがこの値をとらない。 -/
  | rejected (name : String) (operand : Operand)
  /-- 要求のディレクティブには書き込めない。`verb` は操作、`name` はその対象。 -/
  | immutable (verb : String) (name : String)
  deriving Inhabited

namespace DirectiveError

/-- 退けられた引数すべてに共通の文。 -/
def invalidArgumentText : String := "invalid cache-control directive argument"

/-- 要求のディレクティブへの書き込みすべてに共通の文。 -/
def immutableText : String := "cache-control directives are immutable"

/-- 失敗の種類。 -/
def kind : DirectiveError → ErrorKind
  | .badName _ | .rejected _ _ => .invalidArgument
  | .immutable _ _ => .immutable

/-- 失敗の文。 -/
def message : DirectiveError → String
  | .badName n => "invalid directive name " ++ Text.quoteLiteral n ++ ": " ++ invalidArgumentText
  | .rejected n o =>
    "directive " ++ Text.quoteLiteral n ++ " does not accept " ++ o.describe ++ ": " ++
      invalidArgumentText
  | .immutable v n =>
    "cannot " ++ v ++ " " ++ Text.quoteLiteral n ++ " on request directives: " ++ immutableText

end DirectiveError

end HttpCaching
