import HttpCaching.Field.Read
/-!
# 行をつなぐことと要素分け

Cache-Control の複数の行は、`", "` でつないだ一行と同じに読める。ただし最後の行以外が
引用符の外で終わっているときに限る。

主な主張: 走査が初めの状態に戻った値 `a` の後では、`members (a ++ ", " ++ b)` は
`members a ++ members b` に等しく、したがって `read [", ".intercalate hs] = read hs`。
-/
namespace HttpCaching.Field

/-! ## 前に空白のある要素 -/

theorem trimOws_ofList_space (p : List Char) :
    Text.trimOws (String.ofList (' ' :: p)) = Text.trimOws (String.ofList p) := by
  simp only [Text.trimOws, Text.trimList, String.toList_ofList, List.dropWhile_cons, Text.isOws]
  rfl

/-- 最初の切れの前に置いた空白は、切り詰めた切れのどれも変えない。 -/
theorem map_trimOws_modifyHead_space (l : List (List Char)) :
    (l.modifyHead (' ' :: ·)).map (fun p => Text.trimOws (String.ofList p)) =
      l.map (fun p => Text.trimOws (String.ofList p)) := by
  cases l with
  | nil => rfl
  | cons p ps => simp only [List.modifyHead_cons, List.map_cons, trimOws_ofList_space]

theorem piecesFrom_start_space (l : List Char) :
    piecesFrom Scan.start [] (' ' :: l) = (piecesFrom Scan.start [] l).modifyHead (' ' :: ·) := by
  rw [piecesFrom, if_neg (by simp [Scan.start_space.1]), Scan.start_space.2]
  exact piecesFrom_snoc l Scan.start [] ' '

/-! ## 二つの値をつなぐ -/

theorem members_append_comma (a b : String) (h : Scan.start.run a.toList = Scan.start) :
    members (a ++ ", " ++ b) = members a ++ members b := by
  have hl : (a ++ ", " ++ b).toList = a.toList ++ ',' :: ' ' :: b.toList := by simp
  simp only [members, pieces, hl, piecesFrom_append_cut _ _ _ _ h, piecesFrom_start_space,
    List.map_append, List.map_map, List.filter_append]
  rw [← List.map_map, ← List.map_map (l := piecesFrom Scan.start [] b.toList)]
  simp only [List.map_map]
  rw [show (Text.trimOws ∘ String.ofList) = fun p => Text.trimOws (String.ofList p) from rfl,
    map_trimOws_modifyHead_space]

theorem members_empty : members "" = [] := by
  simp [members, pieces, piecesFrom, Text.trimOws, Text.trimList]

/-- 最後を除くどれもが引用符の外で終わる行は、つなぐと、それらすべてのメンバーを持つ。 -/
theorem members_intercalate (hs : List String)
    (h : ∀ x ∈ hs.dropLast, Scan.start.run x.toList = Scan.start) :
    members (", ".intercalate hs) = hs.flatMap members := by
  induction hs with
  | nil => simp [members_empty]
  | cons x t ih =>
    cases t with
    | nil => simp
    | cons y t =>
      rw [String.intercalate_cons_cons, members_append_comma _ _ (h x (by simp)),
        ih (fun z hz => h z (by simp [hz]))]
      simp

/-- つないだ行を読むことは、行を読むこと。 -/
theorem read_intercalate (hs : List String)
    (h : ∀ x ∈ hs.dropLast, Scan.start.run x.toList = Scan.start) :
    read [", ".intercalate hs] = read hs := by
  simp [read, members_intercalate hs h]

/-- リストの分割は、つなぐコンマについて準同型: スキャンが引用符の外で終わる値の後では、
コンマと空白がメンバーをつなぐので、引用符の外で終わる行を読むことは、それらをつないで読むこと。 -/
theorem members_append_comma_and_read_intercalate :
    (∀ a b : String, Scan.start.run a.toList = Scan.start →
      members (a ++ ", " ++ b) = members a ++ members b) ∧
    (∀ hs : List String, (∀ x ∈ hs.dropLast, Scan.start.run x.toList = Scan.start) →
      read [", ".intercalate hs] = read hs) :=
  ⟨members_append_comma, read_intercalate⟩

/-- 引用符の引数がコンマを持つ値を、別の値につなぐ: スキャンは引用符の外で終わり、
メンバーはつながり、つないだ行は二つの行として読める。 -/
theorem members_join_quoted_comma :
    Scan.start.run "no-cache=\"a, b\"".toList = Scan.start ∧
    members ("no-cache=\"a, b\"" ++ ", " ++ "max-age=5") =
      members "no-cache=\"a, b\"" ++ members "max-age=5" ∧
    (∀ x ∈ ["no-cache=\"a, b\"", "max-age=5"].dropLast, Scan.start.run x.toList = Scan.start) ∧
    read [", ".intercalate ["no-cache=\"a, b\"", "max-age=5"]] =
      read ["no-cache=\"a, b\"", "max-age=5"] := by
  have h1 : Scan.start.run "no-cache=\"a, b\"".toList = Scan.start := by decide
  have h2 : ∀ x ∈ ["no-cache=\"a, b\"", "max-age=5"].dropLast,
      Scan.start.run x.toList = Scan.start := by
    simpa using h1
  exact ⟨h1, members_append_comma_and_read_intercalate.1 _ _ h1, h2,
    members_append_comma_and_read_intercalate.2 _ h2⟩

end HttpCaching.Field
