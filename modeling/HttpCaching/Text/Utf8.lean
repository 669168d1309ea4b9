/-!
# UTF-8 のバイト列

バイト列を UTF-8 として読む。正しい並びは一つの文字に、どの正しい並びも始めないバイトは
そのまま一つの単位になる (長すぎる符号化・サロゲート・U+10FFFF より先・途中で切れた並び)。
文字にするときはそのようなバイトを一つずつ U+FFFD に置き換えるか、そのバイトを表す
私用面の文字 (U+10FF80 から U+10FFFF) にして持つ。後者の文字列はバイト列に戻せ、
UTF-8 しか置けない所へ出すときに U+FFFD にする。
-/
namespace HttpCaching.Text

/-- バイト列を UTF-8 として読んだ単位: 一つの文字か、正しい並びを始めないバイト。 -/
inductive Utf8Unit where
  | char (c : Char)
  | byte (b : Nat)
  deriving DecidableEq, Repr

/-- 先頭のバイトのビットに続く `k` 個の継続バイトの値と、その後のバイト。 -/
def continuation (acc : Nat) : Nat → List Nat → Option (Nat × List Nat)
  | 0, bs => some (acc, bs)
  | k + 1, b :: bs => if b / 64 == 2 then continuation (acc * 64 + b % 64) k bs else none
  | _ + 1, [] => none

/-- UTF-8 として読んだバイトの単位。 -/
def utf8Units (fuel : Nat) (bs : List Nat) : List Utf8Unit :=
  match fuel, bs with
  | 0, _ => []
  | _, [] => []
  | fuel + 1, b :: rest =>
    if b < 0x80 then .char (Char.ofNat b) :: utf8Units fuel rest
    else
      let (len, bits, least) :=
        if b / 32 == 6 then (1, b % 32, 0x80)
        else if b / 16 == 14 then (2, b % 16, 0x800)
        else if b / 8 == 30 then (3, b % 8, 0x10000)
        else (0, 0, 0)
      match (if len == 0 then none else continuation bits len rest) with
      | some (v, after) =>
        if v < least || (0xD800 ≤ v && v ≤ 0xDFFF) || v > 0x10FFFF then
          .byte b :: utf8Units fuel rest
        else .char (Char.ofNat v) :: utf8Units fuel after
      | none => .byte b :: utf8Units fuel rest

/-- バイト列の単位。 -/
def unitsOf (bs : List Nat) : List Utf8Unit := utf8Units (bs.length + 1) bs

/-- バイトを UTF-8 として読んだテキスト。正しくないバイトは U+FFFD に置き換える。 -/
def ofUtf8Lossy (bs : List Nat) : String :=
  String.ofList ((unitsOf bs).map fun
    | .char c => c
    | .byte _ => Char.ofNat 0xFFFD)

/-- テキストの文字の UTF-8 のバイト。 -/
def octets (s : String) : List Nat := s.toUTF8.toList.map (·.toNat)

/-- UTF-8 の文字の一部でないバイトの代わりにテキストに置く文字。これでテキストはどんなバイトでも運べ
る: U+10FF00 にバイトを足したもので、最後の私用面の終わりにある。 -/
def byteChar (b : Nat) : Char := Char.ofNat (0x10FF00 + b)

/-- 文字が表すバイト。表すものがあれば。 -/
def standsFor? (c : Char) : Option Nat :=
  if 0x10FF80 ≤ c.toNat then some (c.toNat - 0x10FF00) else none

/-- バイトを UTF-8 として読んだテキスト。正しくないバイトは、それを表す文字として残す。 -/
def ofUtf8 (bs : List Nat) : String :=
  String.ofList ((unitsOf bs).map fun
    | .char c => c
    | .byte b => byteChar b)

/-- テキストの一文字のバイト。 -/
def charBytes (c : Char) : List Nat :=
  match standsFor? c with
  | some b => [b]
  | none => octets (String.singleton c)

/-- テキストが表すバイト: 文字ごとの UTF-8 のバイトと、バイトを表す文字ならそのバイト。 -/
def bytesOf (s : String) : List Nat := s.toList.flatMap charBytes

/-- テキストが表すバイトの数。 -/
def byteLength (s : String) : Nat := (bytesOf s).length

/-- バイト列の辞書順。 -/
def compareBytes : List Nat → List Nat → Ordering
  | [], [] => .eq
  | [], _ :: _ => .lt
  | _ :: _, [] => .gt
  | a :: as, b :: bs => if a < b then .lt else if b < a then .gt else compareBytes as bs

/-- 文字列が、表すバイトの辞書順で前にあるかどうか。同じバイトを別の文字で表す二つの文字列
(あるバイトを、それを表す私用面の文字で書いたものと、文字の一部として書いたもの) は、バイトでは
分けられないので文字の順で比べる。 -/
def bytesBefore (a b : String) : Bool :=
  match compareBytes (bytesOf a) (bytesOf b) with
  | .lt => true
  | .eq => decide (a < b)
  | .gt => false

/-- UTF-8 しか通らないところで見えるテキスト: ひとつで立つバイトはどれも U+FFFD になる。 -/
def shown (s : String) : String :=
  s.map fun c => if (standsFor? c).isSome then Char.ofNat 0xFFFD else c

end HttpCaching.Text
