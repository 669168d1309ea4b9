import HttpCaching.Proofs.Directive.Render
/-!
# quoted-string と引数の読み取り

`quote` は `"` と `\` にだけバックスラッシュを付けて引用符で囲み、`unquote` はそれを戻す。
`quote` の書いた列は初めの状態から切れずに走査され、初めの状態に戻る。引数を書き出す
`tokenOrQuoted` がテキストをそのまま返すのは、空でないトークンのときだけ。

要素 `n=` に quoted-string を付けたものを読むと、名前は `n` の正規形、引数はもとのテキスト
(`readMember?_assign_quote`)。正規形は下線をハイフンに替えるので、小文字のトークン `n` が
そのまま戻るのは `n` に下線がないときだけ (`read_assign_quote_hyphenates`)。

主な主張は `quote_read_laws`。
-/
namespace HttpCaching.Field

open Text Directive

/-! ## 書き出した引数 -/

theorem length_le_quoteChars (cs : List Char) : cs.length ≤ (quoteChars cs).length := by
  induction cs with
  | nil => exact Nat.le_refl 0
  | cons c cs ih =>
    unfold quoteChars
    split <;> simp <;> omega

theorem quote_ne_self (s : String) : quote s ≠ s := by
  intro h
  have hl := congrArg (fun t => t.toList.length) h
  simp only [toList_quote, List.length_cons, List.length_append] at hl
  have := length_le_quoteChars s.toList
  omega

theorem tokenOrQuoted_eq_self_iff (s : String) : tokenOrQuoted s = s ↔ isToken s = true := by
  unfold tokenOrQuoted
  split
  · rename_i h
    exact ⟨fun _ => h, fun _ => rfl⟩
  · rename_i h
    exact ⟨fun he => absurd he (quote_ne_self s), fun ht => absurd ht h⟩

theorem isTokenChar_ne {c : Char} (h : isTokenChar c = true) :
    c ≠ '"' ∧ c ≠ ',' ∧ c ≠ '=' ∧ c ≠ ' ' ∧ c ≠ '\t' := by
  obtain ⟨⟨hq, -, hc⟩, hb⟩ := plain_of_isTokenChar h
  refine ⟨hq, hc, ?_, ?_, ?_⟩ <;> rintro rfl
  · exact absurd h (by decide)
  · exact absurd hb (by decide)
  · exact absurd hb (by decide)

/-! ## トークンの名前 -/

theorem toList_normalizeName_of_isToken {n : String} (hn : isToken n = true) :
    (normalizeName n).toList = n.toList.map nameChar := by
  have hb := bare_of_isToken hn
  rw [toList_normalizeName, trimList_eq_self (fun c hc => (hb.head c hc).1) hb.getLast]

theorem standsFor?_of_isTokenChar {c : Char} (h : isTokenChar c = true) : standsFor? c = none := by
  have hc := toNat_lt_of_isTokenChar h
  simp only [standsFor?]
  exact if_neg (by omega)

theorem toList_normalizeName_of_lower {n : String} (hn : isToken n = true)
    (hl : Text.toLower n = n) : (normalizeName n).toList = n.toList.map hyphen := by
  have hchars := isTokenChar_of_isToken hn
  -- 小文字にしても変わらないので、どの文字も小文字にして変わらない
  have hshown : Text.shown n = n := by
    rw [← String.toList_inj, Text.shown, String.toList_map]
    refine (List.map_congr_left fun c hc => ?_).trans (List.map_id _)
    exact shownChar_of_standsFor? (standsFor?_of_isTokenChar (hchars c hc))
  have hlower : ∀ c ∈ n.toList, lowerChar c = c := by
    have h := congrArg String.toList hl
    rw [Text.toLower, hshown, String.toList_ofList] at h
    exact (List.map_eq_map_iff (g := id)).mp (h.trans (List.map_id _).symm)
  rw [toList_normalizeName_of_isToken hn]
  refine List.map_congr_left fun c hc => ?_
  rw [nameChar, shownChar_of_standsFor? (standsFor?_of_isTokenChar (hchars c hc)), hlower c hc]

theorem hyphen_eq_self_iff (c : Char) : hyphen c = c ↔ c ≠ '_' := by
  unfold hyphen
  split
  · rename_i h
    have h' : c = '_' := by simpa using h
    subst h'
    exact ⟨fun he => absurd he (by decide), fun hne => absurd rfl hne⟩
  · rename_i h
    exact ⟨fun _ => by simpa using h, fun _ => rfl⟩

/-! ## 名前と quoted-string の要素 -/

theorem readMember?_assign_quote {n : String} (hn : isToken n = true) (s : String) :
    readMember? (n ++ "=" ++ quote s) = some ⟨normalizeName n, .token s⟩ := by
  have hb := bare_of_isToken hn
  have heq : '=' ∉ n.toList := fun he => (isTokenChar_ne (isTokenChar_of_isToken hn '=' he)).2.2.1 rfl
  have hspan : (n ++ "=" ++ quote s).toList.span (· != '=') = (n.toList, '=' :: (quote s).toList) := by
    simpa using span_append_of_not_mem ('=' :: (quote s).toList) heq
  have hempty : (normalizeName n).isEmpty = false := by
    rw [String.isEmpty_eq_false_iff, ne_eq, ← String.toList_inj, toList_normalizeName_of_isToken hn]
    simpa using hb.1
  simp only [readMember?, hspan, String.ofList_toList, hempty]
  simp [readArgument_quote]

/-- quoted-string の規則: 引用を外すともとのテキストに戻り、初めの状態から切れずに走査され
初めの状態に戻る。引数を書き出すとテキストのままになるのはトークンのときだけで (トークンは
引用符・コンマ・等号・空白・水平タブを含まない)、ほかは quoted-string。小文字のトークン `n` の
要素 `n=` に quoted-string を付けて読むと、名前は `n` の下線をハイフンに替えたもの、引数は
もとのテキストで、`n` がそのまま戻るのは下線がないときだけ。 -/
theorem quote_read_laws (s : String) :
    unquote (quote s) = s ∧
    (Scan.start.run (quote s).toList = Scan.start ∧ Scan.start.uncut (quote s).toList = true) ∧
    (tokenOrQuoted s = s ↔ isToken s = true) ∧
    (isToken s = false → tokenOrQuoted s = quote s) ∧
    (isToken s = true → ∀ c ∈ s.toList, c ≠ '"' ∧ c ≠ ',' ∧ c ≠ '=' ∧ c ≠ ' ' ∧ c ≠ '\t') ∧
    ∀ n, isToken n = true → Text.toLower n = n →
      readMember? (n ++ "=" ++ quote s) =
          some ⟨String.ofList (n.toList.map hyphen), .token s⟩ ∧
        (readMember? (n ++ "=" ++ quote s) = some ⟨n, .token s⟩ ↔ '_' ∉ n.toList) := by
  refine ⟨unquote_quote s, start_quote s, tokenOrQuoted_eq_self_iff s,
    fun h => by simp [tokenOrQuoted, h], fun h c hc => ?_, fun n hn hl => ?_⟩
  · exact isTokenChar_ne (isTokenChar_of_isToken h c hc)
  · have hname : normalizeName n = String.ofList (n.toList.map hyphen) := by
      rw [← String.toList_inj, String.toList_ofList, toList_normalizeName_of_lower hn hl]
    rw [readMember?_assign_quote hn, hname]
    refine ⟨rfl, ?_⟩
    -- 名前が戻るのは、どの文字も下線でないときだけ
    have hiff : n.toList.map hyphen = n.toList ↔ ∀ c ∈ n.toList, hyphen c = c := by
      conv_lhs => rhs; rw [← List.map_id n.toList]
      exact List.map_eq_map_iff
    simp only [Option.some.injEq, Directive.mk.injEq, and_true, ← String.toList_inj,
      String.toList_ofList, hiff, hyphen_eq_self_iff]
    exact List.forall_mem_ne'

/-- 引用符を含むテキストはトークンでなく quoted-string に書き出され、`no-cache=` に付けて読むと
名前も引数もそのまま戻る。 -/
theorem quote_read_laws_no_cache :
    isToken "say \"hi\"" = false ∧ tokenOrQuoted "say \"hi\"" = quote "say \"hi\"" ∧
      isToken "no-cache" = true ∧ Text.toLower "no-cache" = "no-cache" ∧
      readMember? ("no-cache" ++ "=" ++ quote "say \"hi\"") =
        some ⟨"no-cache", .token "say \"hi\""⟩ := by
  obtain ⟨-, -, -, hq, -, hr⟩ := quote_read_laws "say \"hi\""
  have h1 : isToken "say \"hi\"" = false := by decide
  have h2 : isToken "no-cache" = true := by decide
  have h3 : Text.toLower "no-cache" = "no-cache" := by decide +kernel
  have h4 : '_' ∉ "no-cache".toList := by decide
  exact ⟨h1, hq h1, h2, h3, (hr "no-cache" h2 h3).2.mpr h4⟩

/-- 小文字のトークン `a_b` の要素 `a_b="x"` を読むと、名前は `a-b` になり、`a_b` には戻らない。 -/
theorem read_assign_quote_hyphenates :
    isToken "a_b" = true ∧ Text.toLower "a_b" = "a_b" ∧
      readMember? ("a_b" ++ "=" ++ quote "x") = some ⟨"a-b", .token "x"⟩ ∧
      readMember? ("a_b" ++ "=" ++ quote "x") ≠ some ⟨"a_b", .token "x"⟩ := by
  decide +kernel

end HttpCaching.Field
