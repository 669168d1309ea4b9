import HttpCaching.Sql.Parse.Basic
/-!
# 式と問い合わせを読む

式は優先順位の低い順に、`OR`、`AND`、前置きの `NOT`、比べる演算 (`=`・`!=`・`IS`・
`LIKE` の仲間・`BETWEEN`・`IN`・`ISNULL`・`NOTNULL`)、大小 (`<`・`<=`・`>`・`>=`)、
ビット演算 (`&`・`|`・`<<`・`>>`)、`+`・`-`、`*`・`/`・`%`、`||`・`->`・`->>`、`COLLATE`、
前置きの `-`・`+`・`~` の段に分かれ、同じ段の演算は左から結ぶ。各関数は「この段以上の
演算だけを読む」という下限を持ち、前置きの演算子は自分の段を下限として被演算子を読む。

* `BETWEEN` の下限は `AND` と `OR` を含まない式、上限は大小の段以上の式。
* `LIKE` の型と `ESCAPE` の文字は大小の段以上の式。
* `IN` の後は括弧の中の問い合わせか式の並び (空でもよい)、または表の名前。
* 問い合わせは `WITH` の定義、`SELECT` か `VALUES` の並び、全体の `ORDER BY`・`LIMIT`。
  最後でない単純な問い合わせに `ORDER BY` や `LIMIT` があれば誤り。
-/
namespace HttpCaching.Sql

namespace Parse

/-- 二つの被演算子の間で字句が表す演算子と、その段。 -/
def binaryLevel (t : Token) : Option (BinaryOp × Nat) :=
  match t.kind with
  | .keyword "OR" => some (.or, 1)
  | .keyword "AND" => some (.and, 2)
  | .op "=" => some (.eq, 4)
  | .op "!=" => some (.ne, 4)
  | .op "<" => some (.lt, 5)
  | .op "<=" => some (.le, 5)
  | .op ">" => some (.gt, 5)
  | .op ">=" => some (.ge, 5)
  | .op "&" => some (.bitAnd, 7)
  | .op "|" => some (.bitOr, 7)
  | .op "<<" => some (.shiftLeft, 7)
  | .op ">>" => some (.shiftRight, 7)
  | .op "+" => some (.add, 8)
  | .op "-" => some (.subtract, 8)
  | .op "*" => some (.multiply, 9)
  | .op "/" => some (.divide, 9)
  | .op "%" => some (.remainder, 9)
  | .op "||" => some (.concat, 10)
  | .op "->" => some (.extract, 10)
  | .op "->>" => some (.extractValue, 10)
  | _ => none

/-- 今の字句が問い合わせを始めるかどうか。 -/
def atQuery : Parse Bool := check fun t =>
  t.isKeyword "SELECT" || t.isKeyword "VALUES" || t.isKeyword "WITH"

/-- 列の名前を、与えられればその表とスキーマの名前とともに読む。 -/
def columnPath : Parse Expr := do
  let a ← nm
  if ← eatOp "." then
    let b ← nm
    if ← eatOp "." then
      let c ← nm
      return .column [a, b, c]
    return .column [a, b]
  return .column [a]

/-- 次にあれば、複合演算子を読む。 -/
def compoundOp : Parse (Option CompoundOp) := do
  if ← eatKw "UNION" then
    if ← eatKw "ALL" then return some .unionAll
    return some .union
  if ← eatKw "INTERSECT" then return some .intersect
  if ← eatKw "EXCEPT" then return some .except
  return none

/-- 語が意味するつなぎ方。その旗で: natural、left、right、outer、inner、cross。 -/
def joinFlags (t : Token) : Option (List Bool) :=
  match (t.raw.map lowerByte) with
  | [110, 97, 116, 117, 114, 97, 108] => some [true, false, false, false, false, false]
  | [108, 101, 102, 116] => some [false, true, false, true, false, false]
  | [111, 117, 116, 101, 114] => some [false, false, false, true, false, false]
  | [114, 105, 103, 104, 116] => some [false, false, true, true, false, false]
  | [102, 117, 108, 108] => some [false, true, true, true, false, false]
  | [105, 110, 110, 101, 114] => some [false, false, false, false, true, false]
  | [99, 114, 111, 115, 115] => some [false, false, false, false, true, true]
  | _ => none

/-- つなぎの語が与えるつなぎ方の種類、またはそれらがどれも名指さないという文。 -/
def joinKind (words : List Token) : Except String (JoinKind × Bool) :=
  let flags := words.map joinFlags
  let message := "unknown join type: " ++ " ".intercalate (words.map (·.text))
  if flags.any (·.isNone) then .error message
  else
    let all := flags.filterMap id
    let has (i : Nat) := all.any fun f => f.getD i false
    let natural := has 0
    let left := has 1
    let right := has 2
    let outer := has 3
    let inner := has 4
    if (inner && outer) || (outer && !left && !right) then .error message
    else if left && right then .ok (.full, natural)
    else if left then .ok (.left, natural)
    else if right then .ok (.right, natural)
    else if has 5 then .ok (.cross, natural)
    else .ok (.inner, natural)

/-- 次にあれば、つなぎの二つの源の間の演算子を読む。 -/
def joinOp : Parse (Option (JoinKind × Bool)) := do
  if ← eatOp "," then return some (.inner, false)
  if ← eatKw "JOIN" then return some (.inner, false)
  match ← current with
  | some t =>
    if t.isJoinWord then
      advance
      let mut words := [t]
      for _ in [0:2] do
        if !(← atKw "JOIN") then
          words := words ++ [← take Token.isNm]
      expectKw "JOIN"
      match joinKind words with
      | .ok k => return some k
      | .error m => failWith m
    return none
  | none => return none

/-- 別名を読む: `AS name`、または裸の識別子か文字列。 -/
def aliasOpt : Parse (Option Name) := do
  if ← eatKw "AS" then return some (← nm)
  if ← check Token.isIds then return some (← ids)
  return none

/-- あれば、`INDEXED BY name` か `NOT INDEXED` を読む。 -/
def indexedBy : Parse Unit := do
  if ← eatKw "INDEXED" then
    expectKw "BY"
    let _ ← nm
  else if (← atKw "NOT") && ((← ahead 1).any (·.isKeyword "INDEXED")) then
    advance
    advance

mutual

/-- 式を読む。 -/
def expr : Nat → Parse Expr
  | 0 => failWith "parser stack overflow"
  | f + 1 => level f 1

/-- この段かそれより上の演算子の式を読む。 -/
def level : Nat → Nat → Parse Expr
  | 0, _ => failWith "parser stack overflow"
  | f + 1, least => do
    let lhs ← operand f
    operators f least lhs

/-- 被演算子を読む: 前置の演算子とその被演算子、または基本の項。 -/
def operand : Nat → Parse Expr
  | 0 => failWith "parser stack overflow"
  | f + 1 => do
    match ← current with
    | none => failHere
    | some t =>
      if t.isKeyword "NOT" then
        advance
        return .unary .not (← level f 3)
      else if t.isOp "-" then
        advance
        return .unary .negate (← level f 12)
      else if t.isOp "+" then
        advance
        return .unary .plus (← level f 12)
      else if t.isOp "~" then
        advance
        return .unary .bitNot (← level f 12)
      else primary f t

/-- 今の字句で始まる基本の項を読む。 -/
def primary : Nat → Token → Parse Expr
  | 0, _ => failWith "parser stack overflow"
  | f + 1, t => do
    match t.kind with
    | .integer =>
      advance
      return .integer t.text
    | .float =>
      advance
      return .literal (.real (readNumber t.text.toList).value)
    | .blob =>
      advance
      return .literal (.blob (blobBytes t.raw))
    | .variable =>
      if t.raw.head? == some 35 && (t.raw.drop 1).head?.any isDigitByte then failHere
      advance
      return .param (← assignSlot t)
    | .string =>
      if (← ahead 1).any (·.isOp ".") then columnPath
      else
        advance
        return .literal (.text (Text.ofUtf8 (dequote t.raw)))
    | .keyword "NULL" =>
      advance
      return .literal .null
    | .keyword "CURRENT_TIME" | .keyword "CURRENT_DATE" | .keyword "CURRENT_TIMESTAMP" =>
      advance
      return .currentTime (match t.kind with | .keyword w => w | _ => "")
    | .keyword "CAST" =>
      advance
      expectOp "("
      let e ← expr f
      expectKw "AS"
      let ty ← typeName false
      expectOp ")"
      return .cast e ty
    | .keyword "CASE" =>
      advance
      let subject ← if ← atKw "WHEN" then pure none else some <$> expr f
      let arms ← caseArms f
      let otherwise ← if ← eatKw "ELSE" then some <$> expr f else pure none
      expectKw "END"
      return .caseOf subject arms otherwise
    | .keyword "EXISTS" =>
      advance
      expectOp "("
      let q ← query f
      expectOp ")"
      return .exists q
    | .keyword "RAISE" =>
      advance
      expectOp "("
      if ← eatKw "IGNORE" then
        expectOp ")"
        return .raise none ""
      let kind ←
        if ← eatKw "ROLLBACK" then pure Conflict.rollback
        else if ← eatKw "ABORT" then pure Conflict.abort
        else if ← eatKw "FAIL" then pure Conflict.fail
        else failHere
      expectOp ","
      let message ← nm
      expectOp ")"
      return .raise (some kind) message.text
    | .op "(" =>
      advance
      if ← atQuery then
        let q ← query f
        expectOp ")"
        return .scalar q
      let e ← expr f
      if ← eatOp "," then
        let rest ← commaList (expr f) f
        expectOp ")"
        return .vector (e :: rest)
      expectOp ")"
      return e
    | _ =>
      if t.isId && (← ahead 1).any (·.isOp "(") then call f t
      else if t.isId || t.isJoinWord then columnPath
      else failHere

/-- 名前から関数の呼び出しを読む。 -/
def call : Nat → Token → Parse Expr
  | 0, _ => failWith "parser stack overflow"
  | f + 1, t => do
    advance
    advance
    if ← eatOp "*" then
      expectOp ")"
      let w ← windowTail f
      return .call t.name false [] true w
    let distinct ← if ← eatKw "DISTINCT" then pure true else do let _ ← eatKw "ALL"; pure false
    let args ← if ← atOp ")" then pure [] else commaList (expr f) f
    expectOp ")"
    let w ← windowTail f
    return .call t.name distinct args false w

/-- あれば、呼び出しの後のフィルターとウィンドウを読む。あったかどうかを伝える。 -/
def windowTail : Nat → Parse Bool
  | 0 => failWith "parser stack overflow"
  | f + 1 => do
    let mut seen := false
    if ← eatKw "FILTER" then
      expectOp "("
      expectKw "WHERE"
      let _ ← expr f
      expectOp ")"
      seen := true
    if ← eatKw "OVER" then
      if ← eatOp "(" then skipGroup f 0
      else let _ ← nm
      seen := true
    return seen

/-- `CASE` の `WHEN … THEN …` の枝を読む。 -/
def caseArms : Nat → Parse (List (Expr × Expr))
  | 0 => failWith "parser stack overflow"
  | f + 1 => do
    expectKw "WHEN"
    let w ← expr f
    expectKw "THEN"
    let t ← expr f
    if ← atKw "WHEN" then return (w, t) :: (← caseArms f)
    return [(w, t)]

/-- 左の被演算子の後の、この段かそれより上の演算子を読む。 -/
def operators : Nat → Nat → Expr → Parse Expr
  | 0, _, _ => failWith "parser stack overflow"
  | f + 1, least, lhs => do
    match ← current with
    | none => return lhs
    | some t =>
      match binaryLevel t with
      | some (op, lv) =>
        if lv < least then return lhs
        advance
        let rhs ← level f (lv + 1)
        operators f least (.binary op lhs rhs)
      | none =>
        if t.isKeyword "COLLATE" then
          if 11 < least then return lhs
          advance
          let c ← ids
          operators f least (.collate lhs c.text)
        else if 4 < least then return lhs
        else if t.isKeyword "ISNULL" then
          advance
          operators f least (.nullTest lhs true)
        else if t.isKeyword "NOTNULL" then
          advance
          operators f least (.nullTest lhs false)
        else if t.isKeyword "IS" then
          advance
          let negated ← eatKw "NOT"
          let distinct ← eatKw "DISTINCT"
          if distinct then expectKw "FROM"
          let rhs ← level f 5
          operators f least (.binary (if negated != distinct then .isNot else .is) lhs rhs)
        else
          let negated := t.isKeyword "NOT"
          let word ← if negated then ahead 1 else pure (some t)
          match word with
          | none => return lhs
          | some w =>
            let known := w.likeWord?.isSome || w.isKeyword "BETWEEN" || w.isKeyword "IN" ||
              (negated && w.isKeyword "NULL")
            if !known then return lhs
            if negated then advance
            advance
            match w.likeWord? with
            | some lw =>
              let pattern ← level f 5
              let escape ← if ← eatKw "ESCAPE" then some <$> level f 5 else pure none
              operators f least (.like lw negated lhs pattern escape)
            | none =>
              if w.isKeyword "NULL" then operators f least (.nullTest lhs false)
              else if w.isKeyword "BETWEEN" then
                let lo ← level f 3
                expectKw "AND"
                let hi ← level f 5
                operators f least (.between negated lhs lo hi)
              else
                let e ← inRest f negated lhs
                operators f least e

/-- `IN` の後に続くものを読む: 括弧の中の問い合わせかリスト、または表の名前。 -/
def inRest : Nat → Bool → Expr → Parse Expr
  | 0, _, _ => failWith "parser stack overflow"
  | f + 1, negated, lhs => do
    if ← eatOp "(" then
      if ← atQuery then
        let q ← query f
        expectOp ")"
        return .inQuery negated lhs q
      if ← eatOp ")" then return .inList negated lhs []
      let items ← commaList (expr f) f
      expectOp ")"
      return .inList negated lhs items
    let (schema, name) ← qualifiedName
    let args ← if ← eatOp "(" then
        if ← eatOp ")" then pure (some [])
        else
          let a ← commaList (expr f) f
          expectOp ")"
          pure (some a)
      else pure none
    return .inTable negated lhs (schema.toList ++ [name]) args

/-- 問い合わせを読む。 -/
def query : Nat → Parse Query
  | 0 => failWith "parser stack overflow"
  | f + 1 => do
    let common ← if ← eatKw "WITH" then
        let _ ← eatKw "RECURSIVE"
        commaList (commonTable f) f
      else pure []
    let (first, order0, limit0) ← simple f
    let rest ← compoundTail f
    let parts := (CompoundOp.union, first, order0, limit0) :: rest
    let misplaced := (parts.zip (parts.drop 1)).reverse.find? fun (a, _) =>
      !a.2.2.1.isEmpty || a.2.2.2.isSome
    if let some (a, b) := misplaced then
      failWith ((if !a.2.2.1.isEmpty then "ORDER BY" else "LIMIT") ++
        " clause should come after " ++ CompoundOp.word b.1 ++ " not before")
    let last := (parts.getLast?).getD (CompoundOp.union, first, order0, limit0)
    return .mk common first (rest.map fun (op, s, _, _) => (op, s)) last.2.2.1 last.2.2.2

/-- `WITH` 句の名前つきの問い合わせを読む。 -/
def commonTable : Nat → Parse CommonTable
  | 0 => failWith "parser stack overflow"
  | f + 1 => do
    let name ← nm
    let columns ← if ← eatOp "(" then nameList f else pure []
    expectKw "AS"
    if ← eatKw "NOT" then expectKw "MATERIALIZED"
    else let _ ← eatKw "MATERIALIZED"
    expectOp "("
    let q ← query f
    expectOp ")"
    return .mk name columns q

/-- 複合演算子と、その後の単純な問い合わせを読む。 -/
def compoundTail : Nat →
    Parse (List (CompoundOp × Simple × List OrderTerm × Option (Expr × Option Expr)))
  | 0 => failWith "parser stack overflow"
  | f + 1 => do
    match ← compoundOp with
    | none => return []
    | some op =>
      let (s, order, limit) ← simple f
      return (op, s, order, limit) :: (← compoundTail f)

/-- 単純な問い合わせを、自分の順と上限とともに読む。 -/
def simple : Nat → Parse (Simple × List OrderTerm × Option (Expr × Option Expr))
  | 0 => failWith "parser stack overflow"
  | f + 1 => do
    if ← eatKw "VALUES" then
      let rows ← commaList (do
        expectOp "("
        let row ← commaList (expr f) f
        expectOp ")"
        return row) f
      return (.values rows, [], none)
    expectKw "SELECT"
    let distinct ← if ← eatKw "DISTINCT" then pure true else do let _ ← eatKw "ALL"; pure false
    let columns ← commaList (resultColumn f) f
    let source ← if ← eatKw "FROM" then joins f else pure []
    let filter ← if ← eatKw "WHERE" then some <$> expr f else pure none
    let groupBy ← if ← eatKw "GROUP" then
        expectKw "BY"
        commaList (expr f) f
      else pure []
    let having ← if ← eatKw "HAVING" then some <$> expr f else pure none
    if ← eatKw "WINDOW" then
      let _ ← commaList (do
        let _ ← nm
        expectKw "AS"
        expectOp "("
        skipGroup f 0) f
    let order ← orderBy f
    let limit ← limitClause f
    return (.select distinct columns source filter groupBy having, order, limit)

/-- あれば、`ORDER BY` とその項を読む。 -/
def orderBy : Nat → Parse (List OrderTerm)
  | 0 => failWith "parser stack overflow"
  | f + 1 => do
    if ← eatKw "ORDER" then
      expectKw "BY"
      commaList (orderTerm f) f
    else return []

/-- 順の項を読む。 -/
def orderTerm : Nat → Parse OrderTerm
  | 0 => failWith "parser stack overflow"
  | f + 1 => do
    let e ← expr f
    let descending ← if ← eatKw "DESC" then pure true else do let _ ← eatKw "ASC"; pure false
    let nulls ← if ← eatKw "NULLS" then
        if ← eatKw "FIRST" then pure (some true)
        else
          expectKw "LAST"
          pure (some false)
      else pure none
    return .mk e descending nulls

/-- あれば、`LIMIT` とその数とオフセットを読む。 -/
def limitClause : Nat → Parse (Option (Expr × Option Expr))
  | 0 => failWith "parser stack overflow"
  | f + 1 => do
    if ← eatKw "LIMIT" then
      let a ← expr f
      if ← eatKw "OFFSET" then return some (a, some (← expr f))
      if ← eatOp "," then return some (← expr f, some a)
      return some (a, none)
    return none

/-- 問い合わせの結果の列を読む。 -/
def resultColumn : Nat → Parse ResultColumn
  | 0 => failWith "parser stack overflow"
  | f + 1 => do
    if ← eatOp "*" then return .all
    let t0 ← current
    let t1 ← ahead 1
    let t2 ← ahead 2
    match t0 with
    | some t =>
      if t.isNm && t1.any (·.isOp ".") && t2.any (·.isOp "*") then
        advance
        advance
        advance
        return .allOf t.name
    | none => pure ()
    let start ← here
    let e ← expr f
    let text ← spanText start (← here)
    let label ← aliasOpt
    return .expr e label text

/-- `FROM` 句の源を読む。 -/
def joins : Nat → Parse (List Join)
  | 0 => failWith "parser stack overflow"
  | f + 1 => do
    let first ← joinItem f .first false
    return first :: (← joinTail f)

/-- 最初の後のつないだ源を読む。 -/
def joinTail : Nat → Parse (List Join)
  | 0 => failWith "parser stack overflow"
  | f + 1 => do
    match ← joinOp with
    | none => return []
    | some (kind, natural) =>
      let j ← joinItem f kind natural
      return j :: (← joinTail f)

/-- 源を一つと、そのつなぎの制約を読む。 -/
def joinItem : Nat → JoinKind → Bool → Parse Join
  | 0, _, _ => failWith "parser stack overflow"
  | f + 1, kind, natural => do
    let source ← if ← eatOp "(" then
        if ← atQuery then
          let q ← query f
          expectOp ")"
          pure (Source.query q (← aliasOpt))
        else
          let inner ← joins f
          expectOp ")"
          pure (Source.group inner (← aliasOpt))
      else
        let (schema, name) ← qualifiedName
        if ← eatOp "(" then
          let args ← if ← atOp ")" then pure [] else commaList (expr f) f
          expectOp ")"
          pure (Source.function schema name args (← aliasOpt))
        else
          let label ← aliasOpt
          indexedBy
          pure (Source.table schema name label)
    let on ← if ← eatKw "ON" then some <$> expr f else pure none
    let usingColumns ← if on.isNone && (← eatKw "USING") then
        expectOp "("
        idList f
      else pure []
    return .mk kind natural source on usingColumns

end

end Parse

end HttpCaching.Sql
