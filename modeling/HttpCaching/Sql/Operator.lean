import HttpCaching.Sql.Schema
/-!
# 値の演算

式の演算子が値に何をするか。

* 算術: NULL があれば NULL。両方が整数なら整数で計算し、64 ビットを越えれば実数で計算し
  直す。割る数が 0 なら NULL。整数の剰余は割られる数の符号を持つ。実数の剰余は両方を整数に
  してから取り、実数で返す。実数の結果が NaN なら NULL。テキストとバイト列は先頭の数として
  読む。
* ビット演算は両方を整数にして計算する。負の数だけずらすのは逆向きにずらすこと。
* `||` は両方をテキストにしてつなぐ。
* 比べる演算は、比べる親和性を両方に当ててから照合で比べ、NULL があれば NULL。`IS` は NULL
  どうしを等しいとする。
* `LIKE` は `%` と `_` を使い ASCII の大文字小文字を問わない。`GLOB` は `*`・`?`・`[...]` を
  使い大文字小文字を区別する。どちらも UTF-8 の文字ごとに合わせる。
* `CAST` は型の名前の親和性に変える。`INTEGER` と `REAL` は先頭の数を読み、`NUMERIC` は
  整数に読めれば整数、そうでなければ実数にする。
-/
namespace HttpCaching.Sql

namespace Value

/-- 二つの実数の算術の結果: NaN なら NULL。 -/
def realResult (x : Float) : Value := if x.isNaN then .null else .real x

/-- 二つの値に算術の演算子を当てる。 -/
def arith (op : BinaryOp) (a b : Value) : Value :=
  if a.isNull || b.isNull then .null
  else
    let inReals : Value :=
      let x := a.toReal
      let y := b.toReal
      match op with
      | .add => realResult (x + y)
      | .subtract => realResult (x - y)
      | .multiply => realResult (x * y)
      | .divide => if y == 0.0 then .null else realResult (x / y)
      | _ =>
        let i := a.toInt
        let j := b.toInt
        if j == 0 then .null
        else realResult (Float.ofInt (i.tmod (if j == -1 then 1 else j)))
    match a.numeric, b.numeric with
    | some (.integer i), some (.integer j) =>
      match op with
      | .add => if fitsInt (i + j) then .integer (i + j) else inReals
      | .subtract => if fitsInt (i - j) then .integer (i - j) else inReals
      | .multiply => if fitsInt (i * j) then .integer (i * j) else inReals
      | .divide =>
        if j == 0 then .null
        else if j == -1 && i == leastInt then inReals
        else .integer (i.tdiv j)
      | _ => if j == 0 then .null else .integer (i.tmod (if j == -1 then 1 else j))
    | _, _ => inReals

/-- 整数の 64 ビットの二の補数の語。 -/
def toWord (i : Int) : Nat := (i % (Nat.pow 2 64 : Int)).toNat

/-- 64 ビットの二の補数の語の整数。 -/
def ofWord (w : Nat) : Int :=
  let w := w % Nat.pow 2 64
  if w ≥ Nat.pow 2 63 then (w : Int) - (Nat.pow 2 64 : Int) else w

/-- 整数を 64 ビットで `n < 64` 桁左にずらす。 -/
def shiftLeftBy (i : Int) (n : Nat) : Int := ofWord (toWord i * Nat.pow 2 n)

/-- 整数を、符号を保って `n < 64` 桁右にずらす。 -/
def shiftRightBy (i : Int) (n : Nat) : Int := i / (Nat.pow 2 n : Int)

/-- 二つの値にビットの演算子を当てる。 -/
def bits (op : BinaryOp) (a b : Value) : Value :=
  if a.isNull || b.isNull then .null
  else
    let i := a.toInt
    let j := b.toInt
    match op with
    | .bitAnd => .integer (ofWord (Nat.land (toWord i) (toWord j)))
    | .bitOr => .integer (ofWord (Nat.lor (toWord i) (toWord j)))
    | _ =>
      let left := op == .shiftLeft
      let (left, n) : Bool × Int := if j < 0 then (!left, if j > -64 then -j else 64) else (left, j)
      if n ≥ 64 then .integer (if i ≥ 0 || left then 0 else -1)
      else if left then .integer (shiftLeftBy i n.toNat)
      else .integer (shiftRightBy i n.toNat)

/-- 二つの値のテキストをつなぐ。 -/
def concat (a b : Value) : Value :=
  match a.asText?, b.asText? with
  | some x, some y => .text (x ++ y)
  | _, _ => .null

/-- `0 - v` としての、値の符号を変えたもの。 -/
def negate (v : Value) : Value := arith .subtract (.integer 0) v

/-- 値のビットごとの補数。 -/
def complement (v : Value) : Value :=
  if v.isNull then .null else .integer (-v.toInt - 1)

/-- 整数としての真偽値。 -/
def ofBool (b : Bool) : Value := .integer (if b then 1 else 0)

/-- 値の `NOT`。 -/
def logicalNot (v : Value) : Value :=
  match v.truth? with
  | some b => ofBool !b
  | none => .null

/-- 三値での、二つの値の `AND`。 -/
def logicalAnd (a b : Value) : Value :=
  match a.truth?, b.truth? with
  | some false, _ => ofBool false
  | _, some false => ofBool false
  | some true, some true => ofBool true
  | _, _ => .null

/-- 三値での、二つの値の `OR`。 -/
def logicalOr (a b : Value) : Value :=
  match a.truth?, b.truth? with
  | some true, _ => ofBool true
  | _, some true => ofBool true
  | some false, some false => ofBool false
  | _, _ => .null

/-- 両方に比較の親和性を与えた後で、二つの値を比べる。 -/
def compareWith (aff : Option Affinity) (c : Collation) (a b : Value) : Ordering :=
  match aff with
  | some af => compare c (forComparison af a) (forComparison af b)
  | none => compare c a b

/-- 比較の演算子を当てる。どちらかの側が NULL なら NULL。ただし `IS` は除く。 -/
def comparison (op : BinaryOp) (aff : Option Affinity) (c : Collation) (a b : Value) : Value :=
  match op with
  | .is => ofBool (if a.isNull || b.isNull then a.isNull && b.isNull
      else compareWith aff c a b == .eq)
  | .isNot => ofBool (if a.isNull || b.isNull then !(a.isNull && b.isNull)
      else compareWith aff c a b != .eq)
  | _ =>
    if a.isNull || b.isNull then .null
    else
      let o := compareWith aff c a b
      ofBool (match op with
        | .eq => o == .eq
        | .ne => o != .eq
        | .lt => o == .lt
        | .le => o != .gt
        | .gt => o == .gt
        | _ => o != .lt)

/-- `CAST` の親和性が作る値。 -/
def castTo (a : Affinity) (v : Value) : Value :=
  match v with
  | .null => .null
  | _ =>
    match a with
    | .blob =>
      match v with
      | .blob _ => v
      | _ => .blob ((v.asBytes?).getD [])
    | .text =>
      match v with
      | .blob bs => .text (Text.ofUtf8 bs)
      | _ => .text ((v.asText?).getD "")
    | .integer => .integer v.toInt
    | .real => .real v.toReal
    | .numeric =>
      match v with
      | .integer _ | .real _ => v
      | _ =>
        let cs := v.charsOf
        let t := readNumber cs
        let (n, k) := readInteger cs
        if (t.code == 0 || t.code == 1) && k ≤ 1 then .integer n
        else
          let x := t.value
          let i := truncateFloat x
          if sameAsInt x i then .integer i else .real x

end Value

/-- 型合わせが歩くテキストの文字: UTF-8 の並び、無効なバイトはそれぞれ一つで。 -/
def patternChars (s : String) : List Char := s.toList

/-- ASCII の大文字の小文字。ほかの文字は保つ。 -/
def foldAscii (c : Char) : Char :=
  if 'A' ≤ c && c ≤ 'Z' then Char.ofNat (c.toNat + 32) else c

/-- `LIKE` にとって二つの文字が同じかどうか: 等しい、または大文字小文字を区別する照合でなければ
ASCII の大文字小文字をたたんで等しい。 -/
def likeSame (caseSensitive : Bool) (c d : Char) : Bool :=
  if caseSensitive then c == d else foldAscii c == foldAscii d

/-- テキストを `LIKE` の型と、あってもよいエスケープの文字で照合する。大文字小文字を区別する照合でな
ければ ASCII の大文字小文字をたたむ。`%` はどの続きでもとり、`_` は一文字をとる。 -/
def likeMatch (caseSensitive : Bool) (escape : Option Char) : Nat → List Char → List Char → Bool
  | 0, _, _ => false
  | fuel + 1, p, s =>
    match p with
    | [] => s.isEmpty
    | c :: rest =>
      if escape == some c then
        match rest, s with
        | e :: rest', d :: s' =>
          likeSame caseSensitive e d && likeMatch caseSensitive escape fuel rest' s'
        | _, _ => false
      else if c == '%' then
        let rest := rest.dropWhile (· == '%')
        if rest.isEmpty then true
        else (List.range (s.length + 1)).any fun k =>
          likeMatch caseSensitive escape fuel rest (s.drop k)
      else if c == '_' then
        match s with
        | _ :: s' => likeMatch caseSensitive escape fuel rest s'
        | [] => false
      else
        match s with
        | d :: s' => likeSame caseSensitive c d && likeMatch caseSensitive escape fuel rest s'
        | [] => false

/-- 文字が `GLOB` の類 `[...]` (その `[` の後) にあるかどうかと、その後に続くもの。 -/
def globClass (c : Char) (cls : List Char) : Option (Bool × List Char) :=
  let (negated, cls) := match cls with
    | '^' :: r => (true, r)
    | r => (false, r)
  let (first, cls) := match cls with
    | ']' :: r => ([']'], r)
    | r => ([], r)
  let body := cls.takeWhile (· != ']')
  let after := cls.drop body.length
  match after with
  | ']' :: rest =>
    let items := first ++ body
    let rec inRanges : List Char → Bool
      | a :: '-' :: b :: more => (a ≤ c && c ≤ b) || inRanges more
      | a :: more => a == c || inRanges more
      | [] => false
    some (inRanges items != negated, rest)
  | _ => none

/-- テキストを `GLOB` の型で照合する: `*` はどの続きでもとり、`?` は一文字、`[...]`
は類の一文字をとる。大文字小文字は区別する。 -/
def globMatch : Nat → List Char → List Char → Bool
  | 0, _, _ => false
  | fuel + 1, p, s =>
    match p with
    | [] => s.isEmpty
    | '*' :: rest =>
      let rest := rest.dropWhile (fun c => c == '*' || c == '?')
      let skipped := (p.drop 1).takeWhile (fun c => c == '*' || c == '?')
      let need := (skipped.filter (· == '?')).length
      if s.length < need then false
      else
        let s := s.drop need
        if rest.isEmpty then true
        else (List.range (s.length + 1)).any fun k => globMatch fuel rest (s.drop k)
    | '?' :: rest =>
      match s with
      | _ :: s' => globMatch fuel rest s'
      | [] => false
    | '[' :: cls =>
      match s with
      | d :: s' =>
        match globClass d cls with
        | some (true, rest) => globMatch fuel rest s'
        | _ => false
      | [] => false
    | c :: rest =>
      match s with
      | d :: s' => c == d && globMatch fuel rest s'
      | [] => false

end HttpCaching.Sql
