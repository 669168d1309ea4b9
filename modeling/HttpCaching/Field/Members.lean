import HttpCaching.Text.Blank
/-!
# フィールド値の要素分け

`#list` のフィールド値を、引用符の外にあるコンマで区切る。引用符の中ではバックスラッシュが
次の一文字を守る。各要素は SP と HTAB を前後から落とし、空になった要素は捨てる。

走査の状態 `Scan` は、引用符の中か、その中でバックスラッシュの直後かの二つだけを持つ。
補題 `piecesFrom_append_cut` は、状態が初めに戻った所の後のコンマでちょうど切れることを言う。
-/
namespace HttpCaching.Field

/-- フィールドの値を走査している位置: 引用符の中かどうかと、その中で直前の文字がバックスラッシュかど
うか。 -/
structure Scan where
  quoted : Bool
  escaped : Bool
  deriving DecidableEq, Repr

namespace Scan

/-- どの文字の前でもない走査: 引用符の外。 -/
def start : Scan := ⟨false, false⟩

/-- もう一文字進めた走査: エスケープされた文字は何も変えず、引用符の中のバックスラッシュは次の文字を
エスケープし、引用符は引用を開くか閉じる。 -/
def next (s : Scan) (c : Char) : Scan :=
  if s.escaped then ⟨s.quoted, false⟩
  else if s.quoted && c == '\\' then ⟨true, true⟩
  else if c == '"' then ⟨!s.quoted, false⟩
  else ⟨s.quoted, false⟩

/-- 文字が値を切るかどうか: 引用符の外のコンマ。 -/
def cuts (s : Scan) (c : Char) : Bool := !s.escaped && !s.quoted && c == ','

/-- 文字の列を進めた走査。 -/
def run (s : Scan) (cs : List Char) : Scan := cs.foldl next s

@[simp]
theorem run_nil (s : Scan) : s.run [] = s := rfl

@[simp]
theorem run_cons (s : Scan) (c : Char) (cs : List Char) : s.run (c :: cs) = (s.next c).run cs :=
  rfl

theorem start_comma : start.cuts ',' = true ∧ start.next ',' = start := by decide

theorem start_space : start.cuts ' ' = false ∧ start.next ' ' = start := by decide

end Scan

/-- フィールドの値を、引用の外のコンマで切る。`cur` は今の切れ端を逆順に持つ。 -/
def piecesFrom (s : Scan) (cur : List Char) : List Char → List (List Char)
  | [] => [cur.reverse]
  | c :: r =>
    if s.cuts c then cur.reverse :: piecesFrom (s.next c) [] r
    else piecesFrom (s.next c) (c :: cur) r

/-- 引用の外のコンマの間にあるフィールドの値の切れ端。空白は除かない。 -/
def pieces (s : String) : List String :=
  (piecesFrom Scan.start [] s.toList).map String.ofList

/-- 一覧の値をとるフィールドの要素: 切れ端の前後の SP と HTAB を除き、空のものは落とす。 -/
def members (s : String) : List String :=
  ((pieces s).map Text.trimOws).filter (!·.isEmpty)

/-- 走査を始めの状態に戻す文字の後では、コンマはそこで切る: 後に続くものの切れ端は、
それだけの値の切れ端と同じ。 -/
theorem piecesFrom_append_cut (a r : List Char) (s : Scan) (cur : List Char)
    (h : s.run a = Scan.start) :
    piecesFrom s cur (a ++ ',' :: r) = piecesFrom s cur a ++ piecesFrom Scan.start [] r := by
  induction a generalizing s cur with
  | nil =>
    simp only [Scan.run_nil] at h
    subst h
    simp [piecesFrom, Scan.start_comma]
  | cons c a ih =>
    simp only [Scan.run_cons] at h
    simp only [List.cons_append, piecesFrom]
    split <;> simp [ih _ _ h]

theorem piecesFrom_snoc (l : List Char) (s : Scan) (cur : List Char) (x : Char) :
    piecesFrom s (cur ++ [x]) l = (piecesFrom s cur l).modifyHead (x :: ·) := by
  induction l generalizing s cur with
  | nil => simp [piecesFrom]
  | cons c r ih =>
    simp only [piecesFrom]
    split
    · simp
    · exact ih (s.next c) (c :: cur)

end HttpCaching.Field
