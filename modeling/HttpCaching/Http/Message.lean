import HttpCaching.Http.Header
import HttpCaching.Text.Utf8
/-!
# 要求と応答

キャッシュの判断に要る部分だけを持つ要求と応答。応答のヘッダーや元の要求は欠けることがある
(`Option`)。要求の対象は、復号したパスのバイト列と `?` の後の生の問い合わせ文字列で持つ。
パスは `%XX` から UTF-8 にならないバイト列にもなりうる。
-/
namespace HttpCaching.Http

/-- 要求の対象: 復号したパスのバイトと、`?` の後の生の問い合わせ。 -/
structure Target where
  pathOctets : List Nat
  rawQuery : String
  deriving DecidableEq, Inhabited, Repr

/-- 復号したパスのテキスト。UTF-8 の文字の一部でないバイトは U+FFFD で見せる。 -/
def Target.path (t : Target) : String := Text.ofUtf8Lossy t.pathOctets

/-- 要求: 方法、対象、ヘッダーのフィールド。 -/
structure Request where
  method : String
  target : Target
  header : Header
  deriving Inhabited, Repr

/-- 応答: 状態コード、ヘッダーのフィールド、答える要求。後の二つはどちらも欠けてよい。 -/
structure Response where
  status : Int
  header : Option Header
  request : Option Request
  deriving Inhabited, Repr

end HttpCaching.Http
