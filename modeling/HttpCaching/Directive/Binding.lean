import HttpCaching.Directive.Directives
import HttpCaching.Field.Read
import HttpCaching.Http.Header
/-!
# ヘッダーに結びついたディレクティブ

ヘッダーの Cache-Control フィールドから読んだ応答ディレクティブ。読むだけではヘッダーは
変わらない。ディレクティブへの書き込みが成功するたびに、フィールドはディレクティブの値
一つに書き直され、値が空ならフィールドごと消える。ほかのフィールドには触れない。
-/
namespace HttpCaching

namespace Directives

/-- 応答のディレクティブが結びつくフィールドの名前。 -/
def boundField : String := "Cache-Control"

/-- ヘッダーの Cache-Control フィールドから読んだ応答のディレクティブ。 -/
def ofHeader (h : Http.Header) : Directives := ofList .response (Field.read (h.values boundField))

/-- 結びついたディレクティブへの書き込みの後のヘッダー: フィールドはその値一つになり、
値が空なら除かれる。 -/
def syncHeader (d : Directives) (h : Http.Header) : Http.Header :=
  if d.render.isEmpty then h.erase boundField else h.set boundField d.render

end Directives

end HttpCaching
