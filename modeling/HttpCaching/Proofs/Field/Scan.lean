import HttpCaching.Field.Members
import HttpCaching.Field.Token
/-!
# 走査で切れない文字列

フィールド値の走査 (`Scan`) が一度も切らずに通り抜ける文字列の性質。コンマで切られる要素は
どれも初めの状態から切れずに読め、引用符・バックスラッシュ・コンマのどれでもない文字は
初めの状態を変えない。`quote` が書く quoted-string は初めの状態から切れずに通り、初めの状態に
戻る。引用符・バックスラッシュ・コンマをそれぞれそのまま写す写し方は走査を変えない。

主な補題は `uncut_of_mem_piecesFrom` (切れた要素はどれも切れずに読める) と
`piecesFrom_of_uncut` (切れない文字列は一つの要素になる)。
-/
namespace HttpCaching.Field

namespace Scan

/-- `s` から走査して、`cs` のどの文字でも切れない。 -/
def uncut (s : Scan) : List Char → Bool
  | [] => true
  | c :: cs => !s.cuts c && (s.next c).uncut cs

@[simp]
theorem uncut_nil (s : Scan) : s.uncut [] = true := rfl

@[simp]
theorem uncut_cons (s : Scan) (c : Char) (cs : List Char) :
    s.uncut (c :: cs) = (!s.cuts c && (s.next c).uncut cs) := rfl

theorem uncut_append (s : Scan) (a b : List Char) :
    s.uncut (a ++ b) = (s.uncut a && (s.run a).uncut b) := by
  induction a generalizing s with
  | nil => simp
  | cons c a ih => simp [ih, Bool.and_assoc]

theorem run_append (s : Scan) (a b : List Char) : s.run (a ++ b) = (s.run a).run b := by
  simp [run, List.foldl_append]

theorem eq_start_of_cuts {s : Scan} {c : Char} (h : s.cuts c = true) : s = start ∧ c = ',' := by
  obtain ⟨q, e⟩ := s
  simp only [cuts, Bool.and_eq_true, Bool.not_eq_true', beq_iff_eq] at h
  obtain ⟨⟨rfl, rfl⟩, rfl⟩ := h
  exact ⟨rfl, rfl⟩

/-! ## 走査に関わらない文字 -/

/-- 引用符・バックスラッシュ・コンマのどれでもない文字。 -/
def Plain (c : Char) : Prop := c ≠ '"' ∧ c ≠ '\\' ∧ c ≠ ','

instance : DecidablePred Plain := fun _ => inferInstanceAs (Decidable (_ ∧ _ ∧ _))

theorem next_plain (s : Scan) {c : Char} (h : Plain c) : s.next c = ⟨s.quoted, false⟩ := by
  obtain ⟨h1, h2, -⟩ := h
  simp [next, h1, h2]

theorem cuts_plain (s : Scan) {c : Char} (h : Plain c) : s.cuts c = false := by
  simp [cuts, h.2.2]

theorem start_plain {cs : List Char} (h : ∀ c ∈ cs, Plain c) :
    start.run cs = start ∧ start.uncut cs = true := by
  induction cs with
  | nil => exact ⟨rfl, rfl⟩
  | cons c cs ih =>
    have hc := h c (List.mem_cons_self ..)
    have hn : start.next c = start := next_plain start hc
    obtain ⟨ih1, ih2⟩ := ih fun d hd => h d (List.mem_cons_of_mem _ hd)
    simp [hn, ih1, ih2, cuts_plain start hc]

theorem uncut_of_plain_append {a b : List Char} (ha : ∀ c ∈ a, Plain c)
    (h : start.uncut (a ++ b) = true) : start.uncut b = true := by
  obtain ⟨hrun, -⟩ := start_plain ha
  rw [uncut_append, hrun, Bool.and_eq_true] at h
  exact h.2

theorem uncut_of_append {s : Scan} {a b : List Char} (h : s.uncut (a ++ b) = true) :
    s.uncut a = true := by
  rw [uncut_append, Bool.and_eq_true] at h
  exact h.1

/-! ## 走査を変えない写し方 -/

/-- 引用符・バックスラッシュ・コンマを、それぞれそれ自身とだけ入れ替わらない写し方。 -/
def Keeps (g : Char → Char) : Prop :=
  ∀ c, (g c = '"' ↔ c = '"') ∧ (g c = '\\' ↔ c = '\\') ∧ (g c = ',' ↔ c = ',')

theorem beq_keeps {g : Char → Char} (hg : Keeps g) (c : Char) :
    (g c == '"') = (c == '"') ∧ (g c == '\\') = (c == '\\') ∧ (g c == ',') = (c == ',') := by
  obtain ⟨h1, h2, h3⟩ := hg c
  refine ⟨?_, ?_, ?_⟩ <;> rw [Bool.eq_iff_iff] <;> simpa

theorem next_keeps {g : Char → Char} (hg : Keeps g) (s : Scan) (c : Char) :
    s.next (g c) = s.next c := by
  obtain ⟨h1, h2, -⟩ := beq_keeps hg c
  simp only [next, h1, h2]

theorem cuts_keeps {g : Char → Char} (hg : Keeps g) (s : Scan) (c : Char) :
    s.cuts (g c) = s.cuts c := by
  simp only [cuts, (beq_keeps hg c).2.2]

theorem uncut_map {g : Char → Char} (hg : Keeps g) (s : Scan) (cs : List Char) :
    s.uncut (cs.map g) = s.uncut cs := by
  induction cs generalizing s with
  | nil => rfl
  | cons c cs ih => simp [next_keeps hg, cuts_keeps hg, ih]

end Scan

/-! ## 要素への切り分け -/

theorem piecesFrom_of_uncut {s : Scan} {cs : List Char} (h : s.uncut cs = true)
    (cur : List Char) : piecesFrom s cur cs = [cur.reverse ++ cs] := by
  induction cs generalizing s cur with
  | nil => simp [piecesFrom]
  | cons c cs ih =>
    simp only [Scan.uncut_cons, Bool.and_eq_true, Bool.not_eq_true'] at h
    rw [piecesFrom, if_neg (by simp [h.1]), ih h.2]
    simp

/-- 切り分けた要素はどれも、初めの状態から切れずに読める。今の要素 `cur` が初めの状態から
切れずに読めて、読み終えた状態が `s` であることが不変条件。 -/
theorem uncut_of_mem_piecesFrom {s : Scan} {cur cs : List Char}
    (hcur : Scan.start.uncut cur.reverse = true) (hs : Scan.start.run cur.reverse = s)
    {p : List Char} (hp : p ∈ piecesFrom s cur cs) : Scan.start.uncut p = true := by
  induction cs generalizing s cur with
  | nil =>
    simp only [piecesFrom, List.mem_singleton] at hp
    rw [hp]
    exact hcur
  | cons c cs ih =>
    rw [piecesFrom] at hp
    split at hp
    · rename_i hc
      obtain ⟨rfl, rfl⟩ := Scan.eq_start_of_cuts hc
      rcases List.mem_cons.mp hp with rfl | hp
      · exact hcur
      · exact ih rfl (by rfl) hp
    · rename_i hc
      refine ih ?_ ?_ hp
      · simp [Scan.uncut_append, hcur, hs, hc]
      · simp [Scan.run_append, hs]

theorem uncut_of_mem_pieces {v : String} {p : String} (hp : p ∈ pieces v) :
    Scan.start.uncut p.toList = true := by
  simp only [pieces, List.mem_map] at hp
  obtain ⟨q, hq, rfl⟩ := hp
  rw [String.toList_ofList]
  exact uncut_of_mem_piecesFrom (s := Scan.start) rfl rfl hq

/-! ## quoted-string -/

/-- 引用符の中では、`quoteChars` の書く列は切れず、引用符の中のまま終わる。 -/
theorem quoted_quoteChars (cs : List Char) :
    (⟨true, false⟩ : Scan).run (quoteChars cs) = ⟨true, false⟩ ∧
      (⟨true, false⟩ : Scan).uncut (quoteChars cs) = true := by
  induction cs with
  | nil => exact ⟨rfl, rfl⟩
  | cons c cs ih =>
    by_cases hc : c = '"' ∨ c = '\\'
    · have hq : quoteChars (c :: cs) = '\\' :: c :: quoteChars cs := by
        rcases hc with rfl | rfl <;> rfl
      rw [hq]
      simpa [Scan.next, Scan.cuts] using ih
    · have hq : quoteChars (c :: cs) = c :: quoteChars cs := by
        simp only [not_or] at hc
        simp [quoteChars, hc.1, hc.2]
      simp only [not_or] at hc
      rw [hq]
      simpa [Scan.next, Scan.cuts, hc.1, hc.2] using ih

theorem toList_quote (s : String) : (quote s).toList = '"' :: quoteChars s.toList ++ ['"'] := by
  simp [quote]

theorem start_quote (s : String) :
    Scan.start.run (quote s).toList = Scan.start ∧ Scan.start.uncut (quote s).toList = true := by
  obtain ⟨h1, h2⟩ := quoted_quoteChars s.toList
  simp [toList_quote, Scan.run_append, Scan.uncut_append, Scan.start, Scan.next, Scan.cuts, h1, h2]

theorem unquoteChars_quoteChars (cs : List Char) : unquoteChars (quoteChars cs ++ ['"']) = cs := by
  induction cs with
  | nil => rfl
  | cons c cs ih =>
    by_cases hc : c = '"' ∨ c = '\\'
    · have hq : quoteChars (c :: cs) = '\\' :: c :: quoteChars cs := by
        rcases hc with rfl | rfl <;> rfl
      rw [hq, List.cons_append, List.cons_append, unquoteChars, ih]
    · simp only [not_or] at hc
      have hq : quoteChars (c :: cs) = c :: quoteChars cs := by simp [quoteChars, hc.1, hc.2]
      rw [hq, List.cons_append, unquoteChars.eq_def]
      split <;> simp_all

@[simp]
theorem unquote_quote (s : String) : unquote (quote s) = s := by
  simp [unquote, toList_quote, unquoteChars_quoteChars]

end HttpCaching.Field
