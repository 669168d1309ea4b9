import HttpCaching.Text.Blank
import HttpCaching.Text.Case
/-!
# ディレクティブ名の正規形

名前は大文字小文字を区別せずに比べる (RFC 9111 §5.2)。保存する形は、前後の空白を落とし、
単純小文字対応で小文字にし、`_` を `-` に替えたもの。
-/
namespace HttpCaching.Directive

/-- ディレクティブ名の保存する形: 前後の空白を除き、小文字にし、下線はどれもハイフンにする。 -/
def normalizeName (name : String) : String :=
  String.ofList ((Text.toLower (Text.trimBlank name)).toList.map
    fun c => if c == '_' then '-' else c)

end HttpCaching.Directive
