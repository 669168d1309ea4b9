import HttpCaching.Text.Utf8
/-!
# 文字列が表すバイト

文字列が表すバイト列 (`Text.bytesOf`) は、文字ごとのバイトをつないだもの。ASCII の文字は
その符号のバイト一つで (`charBytes_of_lt`)、それ以外の文字のバイトはどれも 0x80 以上
(`le_of_mem_charBytes`): UTF-8 の先頭と継続のバイトか、私用面の文字が表す 0x80 以上の
一バイト。したがって 0x80 未満のバイトは、同じ符号の文字からしか来ない (`exists_of_mem_bytesOf`)。

文字列は、表すバイトの辞書順 (`compareBytes`) に並べる (`Text.bytesBefore`)。同じバイトを表す
違う文字列は文字の順で分けるので、これは文字列の上の狭義の全順序になる (`bytesBefore_irrefl`,
`bytesBefore_trans`, `bytesBefore_of_not`)。
-/
namespace HttpCaching.Text

/-! ## バイト配列の要素の列 -/

theorem toList_loop (bs : ByteArray) (i : Nat) (r : List UInt8) :
    ByteArray.toList.loop bs i r = r.reverse ++ bs.data.toList.drop i := by
  fun_induction ByteArray.toList.loop bs i r with
  | case1 i r hi ih =>
    have hi' : i < bs.data.size := hi
    have hd : bs.data.toList.drop i = bs.data[i] :: bs.data.toList.drop (i + 1) := by
      rw [List.drop_eq_getElem_cons (by simpa using hi')]
      simp
    rw [ih, List.reverse_cons, List.append_assoc, ByteArray.get!, getElem!_pos bs.data i hi', hd]
    rfl
  | case2 i r hi =>
    have : bs.data.toList.length ≤ i := by simpa using hi
    simp [List.drop_eq_nil_of_le this]

theorem toList_byteArray (bs : ByteArray) : bs.toList = bs.data.toList := by
  simp [ByteArray.toList, toList_loop]

/-! ## 一文字のバイト -/

theorem octets_singleton (c : Char) :
    octets (String.singleton c) = (String.utf8EncodeChar c).map (·.toNat) := by
  simp [octets, List.utf8Encode, toList_byteArray]

theorem utf8EncodeChar_of_lt {c : Char} (h : c.toNat < 0x80) :
    (String.utf8EncodeChar c).map (·.toNat) = [c.toNat] := by
  have hv : c.val.toNat = c.toNat := rfl
  simp only [String.utf8EncodeChar, hv, if_pos (show c.toNat ≤ 127 by omega)]
  simp
  omega

theorem le_of_mem_utf8EncodeChar {c : Char} (h : 0x80 ≤ c.toNat) {b : UInt8}
    (hb : b ∈ String.utf8EncodeChar c) : 0x80 ≤ b.toNat := by
  have hv : c.val.toNat = c.toNat := rfl
  simp only [String.utf8EncodeChar, hv] at hb
  -- 符号の大きさで二・三・四バイトに分かれる。どのバイトにも 0x80 以上の定数が足されている
  split at hb
  · omega
  · split at hb
    · simp only [List.mem_cons, List.not_mem_nil, or_false] at hb
      rcases hb with rfl | rfl <;> simp [UInt8.toNat_ofNat] <;> omega
    · split at hb
      · simp only [List.mem_cons, List.not_mem_nil, or_false] at hb
        rcases hb with rfl | rfl | rfl <;> simp [UInt8.toNat_ofNat] <;> omega
      · simp only [List.mem_cons, List.not_mem_nil, or_false] at hb
        rcases hb with rfl | rfl | rfl | rfl <;> simp [UInt8.toNat_ofNat] <;> omega

theorem charBytes_of_lt {c : Char} (h : c.toNat < 0x80) : charBytes c = [c.toNat] := by
  have hs : standsFor? c = none := by
    unfold standsFor?
    rw [if_neg (by omega)]
  simp [charBytes, hs, octets_singleton, utf8EncodeChar_of_lt h]

theorem le_of_mem_charBytes {c : Char} (h : 0x80 ≤ c.toNat) {b : Nat} (hb : b ∈ charBytes c) :
    0x80 ≤ b := by
  unfold charBytes at hb
  split at hb
  · rename_i b' hs
    rw [List.mem_singleton] at hb
    subst hb
    unfold standsFor? at hs
    split at hs
    · have hb := Option.some.inj hs
      omega
    · cases hs
  · rw [octets_singleton, List.mem_map] at hb
    obtain ⟨u, hu, rfl⟩ := hb
    exact le_of_mem_utf8EncodeChar h hu

theorem exists_of_mem_bytesOf {s : String} {b : Nat} (hb : b ∈ bytesOf s) (hlt : b < 0x80) :
    ∃ c ∈ s.toList, c.toNat = b := by
  obtain ⟨c, hc, hb⟩ := List.mem_flatMap.mp hb
  by_cases hcl : c.toNat < 0x80
  · rw [charBytes_of_lt hcl, List.mem_singleton] at hb
    exact ⟨c, hc, hb.symm⟩
  · exact absurd (le_of_mem_charBytes (by omega) hb) (by omega)

/-! ## バイト列の辞書順 -/

theorem compareBytes_swap (a b : List Nat) : compareBytes b a = (compareBytes a b).swap := by
  induction a generalizing b with
  | nil => cases b <;> rfl
  | cons x xs ih =>
    cases b with
    | nil => rfl
    | cons y ys =>
      simp only [compareBytes]
      -- 先頭のバイトの比べ方が入れ替わる
      by_cases hxy : x < y
      · rw [if_pos hxy, if_neg (Nat.lt_asymm hxy), if_pos hxy]
        rfl
      · by_cases hyx : y < x
        · rw [if_pos hyx, if_neg hxy, if_pos hyx]
          rfl
        · rw [if_neg hxy, if_neg hyx, if_neg hyx, if_neg hxy, ih]

theorem compareBytes_ne_gt_trans {a b c : List Nat} (h1 : compareBytes a b ≠ .gt)
    (h2 : compareBytes b c ≠ .gt) : compareBytes a c ≠ .gt := by
  induction a generalizing b c with
  | nil => cases c <;> simp [compareBytes]
  | cons x xs ih =>
    cases b with
    | nil => simp [compareBytes] at h1
    | cons y ys =>
      cases c with
      | nil => simp [compareBytes] at h2
      | cons z zs =>
        simp only [compareBytes] at h1 h2 ⊢
        -- 先頭のバイトは x ≤ y ≤ z で、等しいときだけ残りを比べる
        by_cases hxz : x < z
        · simp [hxz]
        · have hxy : ¬y < x := fun h => by simp [h, Nat.lt_asymm h] at h1
          have hyz : ¬z < y := fun h => by simp [h, Nat.lt_asymm h] at h2
          have hx : x = y := by omega
          subst hx
          have hy : x = z := by omega
          subst hy
          simp only [Nat.lt_irrefl, if_false] at h1 h2 ⊢
          exact ih h1 h2

theorem eq_of_compareBytes_ne_gt {a b : List Nat} (h1 : compareBytes a b ≠ .gt)
    (h2 : compareBytes b a ≠ .gt) : a = b := by
  induction a generalizing b with
  | nil =>
    cases b with
    | nil => rfl
    | cons y ys => simp [compareBytes] at h2
  | cons x xs ih =>
    cases b with
    | nil => simp [compareBytes] at h1
    | cons y ys =>
      simp only [compareBytes] at h1 h2
      have hxy : ¬x < y := fun h => by simp [h, Nat.lt_asymm h] at h2
      have hyx : ¬y < x := fun h => by simp [h, Nat.lt_asymm h] at h1
      simp only [hxy, hyx, if_false] at h1 h2
      rw [Nat.le_antisymm (Nat.not_lt.mp hyx) (Nat.not_lt.mp hxy), ih h1 h2]

theorem compareBytes_total (a b : List Nat) :
    (compareBytes a b != .gt || compareBytes b a != .gt) = true := by
  rw [compareBytes_swap a b]
  cases compareBytes a b <;> rfl

theorem compareBytes_self (a : List Nat) : compareBytes a a = .eq := by
  induction a with
  | nil => rfl
  | cons x xs ih => simp [compareBytes, ih]

theorem eq_of_compareBytes_eq {a b : List Nat} (h : compareBytes a b = .eq) : a = b :=
  eq_of_compareBytes_ne_gt (by rw [h]; decide) (by rw [compareBytes_swap, h]; decide)

theorem compareBytes_lt_trans {a b c : List Nat} (h1 : compareBytes a b = .lt)
    (h2 : compareBytes b c = .lt) : compareBytes a c = .lt := by
  have hle : compareBytes a c ≠ .gt :=
    compareBytes_ne_gt_trans (by rw [h1]; decide) (by rw [h2]; decide)
  cases hac : compareBytes a c with
  | lt => rfl
  | gt => exact absurd hac hle
  | eq =>
    -- 等しければ、b は a の後にも前にもある
    obtain rfl := eq_of_compareBytes_eq hac
    rw [compareBytes_swap, h1] at h2
    cases h2

/-! ## 表すバイトの順

文字列を、表すバイトの辞書順に並べる。バイトが同じ二つは文字の順に並べるので、違う二つの文字列は
必ずどちらかが前になる。 -/

variable {a b c : String}

theorem bytesBefore_of_lt (h : compareBytes (bytesOf a) (bytesOf b) = .lt) :
    bytesBefore a b = true := by
  simp [bytesBefore, h]

theorem bytesBefore_of_eq (h : compareBytes (bytesOf a) (bytesOf b) = .eq) :
    bytesBefore a b = decide (a < b) := by
  simp [bytesBefore, h]

theorem bytesBefore_of_gt (h : compareBytes (bytesOf a) (bytesOf b) = .gt) :
    bytesBefore a b = false := by
  simp [bytesBefore, h]

theorem bytesBefore_irrefl (a : String) : bytesBefore a a = false := by
  rw [bytesBefore_of_eq (compareBytes_self _)]
  exact decide_eq_false (String.lt_irrefl a)

theorem ne_of_bytesBefore (h : bytesBefore a b = true) : a ≠ b := by
  rintro rfl
  rw [bytesBefore_irrefl] at h
  cases h

theorem bytesBefore_trans (h1 : bytesBefore a b = true) (h2 : bytesBefore b c = true) :
    bytesBefore a c = true := by
  cases hab : compareBytes (bytesOf a) (bytesOf b) with
  | gt => rw [bytesBefore_of_gt hab] at h1; cases h1
  | lt =>
    cases hbc : compareBytes (bytesOf b) (bytesOf c) with
    | gt => rw [bytesBefore_of_gt hbc] at h2; cases h2
    | lt => exact bytesBefore_of_lt (compareBytes_lt_trans hab hbc)
    | eq => exact bytesBefore_of_lt (eq_of_compareBytes_eq hbc ▸ hab)
  | eq =>
    -- a と b は同じバイトを表すので、c との比べ方は b と同じ
    have hb := eq_of_compareBytes_eq hab
    rw [bytesBefore_of_eq hab] at h1
    cases hbc : compareBytes (bytesOf b) (bytesOf c) with
    | gt => rw [bytesBefore_of_gt hbc] at h2; cases h2
    | lt => exact bytesBefore_of_lt (hb ▸ hbc)
    | eq =>
      rw [bytesBefore_of_eq hbc] at h2
      rw [bytesBefore_of_eq (hb ▸ hbc)]
      exact decide_eq_true (String.lt_trans (of_decide_eq_true h1) (of_decide_eq_true h2))

theorem bytesBefore_asymm (h : bytesBefore a b = true) : bytesBefore b a = false := by
  cases h' : bytesBefore b a
  · rfl
  · rw [← bytesBefore_irrefl a, bytesBefore_trans h h']

theorem bytesBefore_of_not (hne : a ≠ b) (h : bytesBefore a b = false) : bytesBefore b a = true := by
  cases hab : compareBytes (bytesOf a) (bytesOf b) with
  | lt => rw [bytesBefore_of_lt hab] at h; cases h
  | gt => exact bytesBefore_of_lt (by rw [compareBytes_swap, hab]; rfl)
  | eq =>
    -- 同じバイトなら文字の順: 前でも等しくもなければ後
    rw [bytesBefore_of_eq hab] at h
    rw [bytesBefore_of_eq (by rw [compareBytes_swap, hab]; rfl)]
    have hnlt : ¬a < b := of_decide_eq_false h
    exact decide_eq_true (Decidable.byContradiction fun hn =>
      hne (String.le_antisymm (String.not_lt.1 hn) (String.not_lt.1 hnlt)))

end HttpCaching.Text
