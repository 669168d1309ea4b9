import HttpCaching.Text.Printable
import HttpCaching.Text.Utf8
/-!
# 二重引用符付きの文字列表記

エラーメッセージに名前や値を埋め込むときの表記。印字可能な文字はそのまま、`"` と `\` は
バックスラッシュを前置し、残りは `\n` などの短い形か、`\xHH`・`\uHHHH`・`\UHHHHHHHH` の
十六進 (小文字) で書く。バイト列の表記では、UTF-8 の並びにならないバイトを `\xHH` で書く。
-/
namespace HttpCaching.Text

/-- `n` の小文字の十六進の桁。`width` 桁まで 0 で埋める。 -/
def hexDigits (width n : Nat) : List Char :=
  let ds := Nat.toDigits 16 n
  List.replicate (width - ds.length) '0' ++ ds

/-- 引用符の間での一文字の書き方。ひとつのバイトを表す文字は、そのバイトを `\xHH` と書く。 -/
def escapeChar (c : Char) : List Char :=
  let n := c.toNat
  if let some b := standsFor? c then '\\' :: 'x' :: hexDigits 2 b
  else if c == '"' || c == '\\' then ['\\', c]
  else if isPrintable c then [c]
  else match n with
    | 0x07 => ['\\', 'a']
    | 0x08 => ['\\', 'b']
    | 0x0C => ['\\', 'f']
    | 0x0A => ['\\', 'n']
    | 0x0D => ['\\', 'r']
    | 0x09 => ['\\', 't']
    | 0x0B => ['\\', 'v']
    | _ =>
      if n < 0x20 || n == 0x7F then '\\' :: 'x' :: hexDigits 2 n
      else if n < 0x10000 then '\\' :: 'u' :: hexDigits 4 n
      else '\\' :: 'U' :: hexDigits 8 n

/-- テキストを二重引用符で囲んだリテラル。 -/
def quoteLiteral (s : String) : String :=
  String.ofList ('"' :: s.toList.flatMap escapeChar ++ ['"'])

/-- バイト列を二重引用符で囲んだリテラル: 文字は `quoteLiteral` と同じに書き、UTF-8
の文字の一部でないバイトは `\xHH` と書く。 -/
def quoteOctets (bs : List Nat) : String :=
  String.ofList ('"' :: (unitsOf bs).flatMap (fun
    | .char c => escapeChar c
    | .byte b => '\\' :: 'x' :: hexDigits 2 b) ++ ['"'])

end HttpCaching.Text
