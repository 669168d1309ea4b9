import HttpCaching.Field.Read
import HttpCaching.Proofs.Field.Join
import HttpCaching.Proofs.Directive.Name
import HttpCaching.Proofs.Directive.Entries
/-!
# 書き出した表を読み直す

表を Cache-Control のフィールド値に書き出し (`Entries.render`)、それを一行として読む
(`Field.read`) と、名前も順序もそのままの表が返る。引数は二つの場合を除いてそのまま戻る:
delta-seconds を取るもの (と `max-stale`) では数字だけのトークンが数になり、ほかのものでは
数がその十進表記のトークンになる (`Argument.reread`)。

前提は二つ。各名前が読み直せる形であること (`Directive.Rereadable`: 正規形で、空でなく、
等号を含まず、切れずに読める。delta-seconds の数は負でない) と、各名前が引用符の外で
終わること。

主な主張は `read_render`。
-/
namespace HttpCaching

/-- 読むときに引数を数として読もうとする種類: delta-seconds と `max-stale`。 -/
def ArgumentClass.readsSeconds (cls : ArgumentClass) : Bool := cls == .delta || cls == .stale

namespace Field

open Text

/-! ## トークンと数の表記 -/

theorem toNat_lt_of_isTokenChar {c : Char} (h : isTokenChar c = true) : c.toNat < 0x80 := by
  simp only [isTokenChar, Char.le_def, UInt32.le_iff_toNat_le, Bool.or_eq_true, Bool.and_eq_true,
    decide_eq_true_eq] at h
  rcases h with ((h | h) | h) | h
  · exact Nat.lt_of_le_of_lt h.2 (by decide)
  · exact Nat.lt_of_le_of_lt h.2 (by decide)
  · exact Nat.lt_of_le_of_lt h.2 (by decide)
  · -- 記号の一覧はどれも ASCII
    simp only [String.reduceToList, List.contains_eq_mem, List.mem_cons, List.not_mem_nil,
      or_false, decide_eq_true_eq] at h
    rcases h with rfl | rfl | rfl | rfl | rfl | rfl | rfl | rfl | rfl | rfl | rfl | rfl | rfl |
      rfl | rfl <;> decide

/-- 走査に関わらず空白でもない文字だけの、空でない列。トークンと整数の表記がそう。 -/
def Bare (t : List Char) : Prop := t ≠ [] ∧ ∀ c ∈ t, Scan.Plain c ∧ isBlank c = false

theorem plain_of_isTokenChar {c : Char} (h : isTokenChar c = true) :
    Scan.Plain c ∧ isBlank c = false := by
  have ascii : ∀ n, n < 0x80 → isTokenChar (Char.ofNat n) = true →
      Char.ofNat n ≠ '"' ∧ Char.ofNat n ≠ '\\' ∧ Char.ofNat n ≠ ',' ∧
        isBlank (Char.ofNat n) = false := by
    decide +kernel
  obtain ⟨h1, h2, h3, h4⟩ := ascii c.toNat (toNat_lt_of_isTokenChar h) (by simpa using h)
  simp only [Char.ofNat_toNat] at h1 h2 h3 h4
  exact ⟨⟨h1, h2, h3⟩, h4⟩

theorem isTokenChar_of_isToken {s : String} (h : isToken s = true) :
    ∀ c ∈ s.toList, isTokenChar c = true := by
  simp only [isToken, Bool.and_eq_true, List.all_eq_true] at h
  exact h.2

theorem bare_of_isToken {s : String} (h : isToken s = true) : Bare s.toList := by
  have hne : s ≠ "" := by
    simp only [isToken, Bool.and_eq_true, Bool.not_eq_true', String.isEmpty_eq_false_iff] at h
    exact h.1
  exact ⟨by simpa using hne, fun c hc => plain_of_isTokenChar (isTokenChar_of_isToken h c hc)⟩

theorem toList_toString_int (i : Int) :
    (toString i).toList = (if i < 0 then ['-'] else []) ++ Nat.toDigits 10 i.natAbs := by
  cases i with
  | ofNat n => simp [toString, Int.repr]
  | negSucc n => simp [toString, Int.repr]

theorem isTokenChar_of_isDigit {c : Char} (h : c.isDigit = true) : isTokenChar c = true := by
  simp only [Char.isDigit, Bool.and_eq_true, decide_eq_true_eq] at h
  have h0 : '0' ≤ c := h.1
  have h9 : c ≤ '9' := h.2
  simp [isTokenChar, h0, h9]

theorem isToken_toString_int (i : Int) : isToken (toString i) = true := by
  have hne : toString i ≠ "" := by
    intro he
    have hl := congrArg String.toList he
    rw [toList_toString_int] at hl
    simp [Nat.toDigits_ne_nil] at hl
  simp only [isToken, Bool.and_eq_true, Bool.not_eq_true', String.isEmpty_eq_false_iff,
    List.all_eq_true, toList_toString_int]
  refine ⟨hne, fun c hc => ?_⟩
  rcases List.mem_append.mp hc with hc | hc
  · split at hc
    · rw [List.mem_singleton] at hc
      subst hc
      decide
    · simp at hc
  · exact isTokenChar_of_isDigit (Nat.isDigit_of_mem_toDigits (by decide) (by decide) hc)

theorem bare_toString_int (i : Int) : Bare (toString i).toList :=
  bare_of_isToken (isToken_toString_int i)

namespace Bare

variable {t : List Char}

theorem start (h : Bare t) : Scan.start.run t = Scan.start ∧ Scan.start.uncut t = true :=
  Scan.start_plain fun c hc => (h.2 c hc).1

theorem head (h : Bare t) : ∀ c ∈ t.head?, isBlank c = false ∧ c ≠ '"' := by
  intro c hc
  have hm := h.2 c (List.mem_of_mem_head? hc)
  exact ⟨hm.2, hm.1.1⟩

theorem getLast (h : Bare t) : ∀ c ∈ t.getLast?, isBlank c = false := by
  intro c hc
  exact (h.2 c (List.mem_of_mem_getLast? hc)).2

theorem trimBlank {v : String} (h : Bare v.toList) : Text.trimBlank v = v := by
  rw [← String.toList_inj, Text.trimBlank, String.toList_ofList,
    trimList_eq_self (fun c hc => (h.head c hc).1) h.getLast]

end Bare

/-! ## 引数の読み直し -/

theorem isDigit_eq (c : Char) : isDigit c = c.isDigit := by
  simp [isDigit, Char.isDigit, Char.le_def]

theorem readDeltaSeconds?_toString {n : Int64} (h : 0 ≤ n) :
    readDeltaSeconds? (toString n.toInt) = some n := by
  have hpos : 0 ≤ n.toInt := Int64.le_iff_toInt_le.mp h
  have hle : n.toInt ≤ 9223372036854775807 := Int64.toInt_le n
  obtain ⟨k, hk⟩ := Int.eq_ofNat_of_zero_le hpos
  have hs : (toString n.toInt).toList = Nat.toDigits 10 k := by
    rw [toList_toString_int, hk]
    simp
  have hdigits : isDigits (toString n.toInt) = true := by
    simp only [isDigits, Bool.and_eq_true, Bool.not_eq_true', String.isEmpty_eq_false_iff,
      List.all_eq_true, hs, isDigit_eq]
    refine ⟨?_, fun c hc => Nat.isDigit_of_mem_toDigits (by decide) (by decide) hc⟩
    intro he
    have hl := congrArg String.toList he
    rw [hs] at hl
    simp [Nat.toDigits_ne_nil] at hl
  have hvalue : digitsValue (toString n.toInt).toList = k := by
    rw [hs]
    exact Nat.ofDigitChars_ten_toDigits
  have hk' : k ≤ 9223372036854775807 := by omega
  simp only [readDeltaSeconds?, hdigits, if_true, hvalue, hk', Option.some.injEq]
  apply Int64.toInt_inj.mp
  rw [Int64.toInt_ofNat_of_lt (by omega), hk]

theorem isToken_of_readDeltaSeconds? {s : String} {k : Int64} (h : readDeltaSeconds? s = some k) :
    isToken s = true := by
  unfold readDeltaSeconds? at h
  split at h
  · rename_i hd
    simp only [isDigits, Bool.and_eq_true, List.all_eq_true] at hd
    simp only [isToken, hd.1, Bool.true_and, List.all_eq_true]
    intro c hc
    exact isTokenChar_of_isDigit (by simpa [isDigit_eq] using hd.2 c hc)
  · cases h

theorem nonneg_of_readDeltaSeconds? {s : String} {k : Int64} (h : readDeltaSeconds? s = some k) :
    0 ≤ k := by
  unfold readDeltaSeconds? at h
  split at h
  · simp only at h
    split at h
    · rename_i hle
      cases h
      rw [Int64.le_iff_toInt_le, Int64.toInt_ofNat_of_lt (by omega)]
      simp
    · cases h
      decide
  · cases h

/-- 引用符で始まらない表記の引数は、数として読もうとする種類では数として読み、ほかはテキスト。 -/
theorem readArgument_bare {v : String} (h : Bare v.toList) (name : String) :
    readArgument name v =
      if (ArgumentClass.of name).readsSeconds then
        match readDeltaSeconds? v with
        | some n => .int n
        | none => .token v
      else .token v := by
  have hq : (v.toList.head? == some '"') = false := by
    cases ht : v.toList.head? with
    | none => rfl
    | some c => simpa using (h.head c ht).2
  simp only [readArgument, Bare.trimBlank h, hq, Bool.false_eq_true, if_false,
    ArgumentClass.readsSeconds]
  rfl

theorem head?_quote (s : String) : (quote s).toList.head? = some '"' := by
  simp [toList_quote]

theorem getLast?_quote (s : String) : (quote s).toList.getLast? = some '"' := by
  rw [toList_quote, List.getLast?_append, List.getLast?_singleton]
  rfl

theorem readArgument_quote (name s : String) : readArgument name (quote s) = .token s := by
  have hblank : isBlank '"' = false := by decide
  have htrim : Text.trimBlank (quote s) = quote s := by
    rw [← String.toList_inj, Text.trimBlank, String.toList_ofList]
    apply trimList_eq_self
    · simpa [head?_quote] using hblank
    · simpa [getLast?_quote] using hblank
  simp [readArgument, htrim, head?_quote]

/-- 引数の表記の性質: 初めの状態から切れずに読めて初めの状態に戻り、空白で終わらない。 -/
structure Shown (v : String) : Prop where
  run : Scan.start.run v.toList = Scan.start
  uncut : Scan.start.uncut v.toList = true
  last : ∀ c ∈ v.toList.getLast?, isBlank c = false

theorem Bare.shown {v : String} (h : Bare v.toList) : Shown v :=
  ⟨h.start.1, h.start.2, h.getLast⟩

theorem shown_quote (s : String) : Shown (quote s) := by
  have hblank : isBlank '"' = false := by decide
  exact ⟨(start_quote s).1, (start_quote s).2, by simpa [getLast?_quote] using hblank⟩

end Field

/-! ## 書き出して読み直す -/

namespace Argument

/-- 書き出して読み直した引数。数として読もうとする種類では数字だけのトークンが数になり
(大きすぎる数は `readDeltaSeconds?` のとおりに丸める)、ほかの種類では数がその十進表記の
トークンになる。引数なしとそれ以外のテキストはそのまま。 -/
def reread (cls : ArgumentClass) : Argument → Argument
  | .flag => .flag
  | .int n => if cls.readsSeconds then .int n else .token (toString n.toInt)
  | .token s =>
    if cls.readsSeconds then
      match Field.readDeltaSeconds? s with
      | some n => .int n
      | none => .token s
    else .token s

/-- 数として読まれる種類では、数の引数は負でない。 -/
def NonnegSeconds (cls : ArgumentClass) (a : Argument) : Prop :=
  ∀ n, a = .int n → cls.readsSeconds = true → 0 ≤ n

end Argument

namespace Directive

open HttpCaching.Field HttpCaching.Text

/-- 読み直したディレクティブ: 名前はそのまま、引数は `Argument.reread`。 -/
def reread (d : Directive) : Directive := ⟨d.name, d.arg.reread (ArgumentClass.of d.name)⟩

/-- 書き出して読み直せるディレクティブ: 名前は正規形で空でなく、等号を含まず、初めの状態から
切れずに読める。数として読まれる種類の数は負でない。 -/
structure Rereadable (d : Directive) : Prop where
  normal : normalizeName d.name = d.name
  nonempty : d.name ≠ ""
  noEquals : '=' ∉ d.name.toList
  uncut : Scan.start.uncut d.name.toList = true
  nonneg : d.arg.NonnegSeconds (ArgumentClass.of d.name)

/-- 書き出した形は名前だけ (引数なし) か、名前と等号と引数の表記で、その表記は読み直すと
`reread` の引数になる。 -/
theorem render_cases {d : Directive} (h : d.Rereadable) :
    (d.arg = .flag ∧ d.render = d.name) ∨
      ∃ v, Shown v ∧ d.render = d.name ++ "=" ++ v ∧
        readArgument d.name v = d.arg.reread (ArgumentClass.of d.name) := by
  obtain ⟨name, arg⟩ := d
  cases arg with
  | flag => exact .inl ⟨rfl, rfl⟩
  | int n =>
    refine .inr ⟨toString n.toInt, (bare_toString_int _).shown, rfl, ?_⟩
    rw [readArgument_bare (bare_toString_int _), Argument.reread]
    split
    · rename_i hc
      rw [readDeltaSeconds?_toString (h.nonneg n rfl hc)]
    · rfl
  | token s =>
    by_cases hf : ArgumentClass.of name = .fields
    · refine .inr ⟨quote s, shown_quote s, by simp [render, hf], ?_⟩
      simp [readArgument_quote, Argument.reread, ArgumentClass.readsSeconds, hf]
    · by_cases ht : isToken s = true
      · refine .inr ⟨s, (bare_of_isToken ht).shown, by simp [render, hf, tokenOrQuoted, ht], ?_⟩
        rw [readArgument_bare (bare_of_isToken ht), Argument.reread]
      · refine .inr ⟨quote s, shown_quote s, by simp [render, hf, tokenOrQuoted, ht], ?_⟩
        -- 引用した引数は数にならないが、トークンでないので `reread` でも数にならない
        have hn : readDeltaSeconds? s = none := by
          cases hr : readDeltaSeconds? s with
          | none => rfl
          | some k => exact absurd (isToken_of_readDeltaSeconds? hr) ht
        simp [readArgument_quote, Argument.reread, hn]

theorem toList_assign (name v : String) :
    (name ++ "=" ++ v).toList = name.toList ++ '=' :: v.toList := by
  simp

theorem isOws_of_isBlank {c : Char} (h : isBlank c = false) : isOws c = false := by
  cases hc : isOws c with
  | false => rfl
  | true =>
    simp only [isOws, Bool.or_eq_true, beq_iff_eq] at hc
    rcases hc with rfl | rfl <;> exact absurd h (by decide)

theorem span_append_of_not_mem {a : List Char} (b : List Char) (ha : '=' ∉ a) :
    (a ++ b).span (· != '=') = (a ++ b.takeWhile (· != '='), b.dropWhile (· != '=')) := by
  have hp : ∀ c ∈ a, (c != '=') = true := by
    intro c hc
    simpa using ne_of_mem_of_not_mem hc ha
  rw [List.span_eq_takeWhile_dropWhile, List.takeWhile_append_of_pos hp,
    List.dropWhile_append_of_pos hp]

namespace Rereadable

variable {d : Directive}

theorem head (h : d.Rereadable) : ∀ c ∈ d.name.toList.head?, isBlank c = false := by
  rw [← h.normal]
  exact head?_normalizeName _

theorem getLast (h : d.Rereadable) : ∀ c ∈ d.name.toList.getLast?, isBlank c = false := by
  rw [← h.normal]
  exact getLast?_normalizeName _

theorem closed_render (h : d.Rereadable) (hq : Scan.start.run d.name.toList = Scan.start) :
    Scan.start.run d.render.toList = Scan.start ∧ Scan.start.uncut d.render.toList = true := by
  rcases render_cases h with ⟨-, hr⟩ | ⟨v, hv, hr, -⟩
  · rw [hr]
    exact ⟨hq, h.uncut⟩
  · have heq : Scan.start.next '=' = Scan.start := Scan.next_plain _ (by decide)
    have hcut : Scan.start.cuts '=' = false := Scan.cuts_plain _ (by decide)
    rw [hr, toList_assign, Scan.run_append, Scan.uncut_append, hq, Scan.run_cons,
      Scan.uncut_cons, heq, hcut, hv.run, hv.uncut, h.uncut]
    exact ⟨rfl, rfl⟩

/-- 書き出した形は空白で始まらず、空白で終わらない。 -/
theorem ends_render (h : d.Rereadable) :
    (∀ c ∈ d.render.toList.head?, isBlank c = false) ∧
      ∀ c ∈ d.render.toList.getLast?, isBlank c = false := by
  have hne : d.name.toList ≠ [] := by simpa using h.nonempty
  have hhead : ∀ x : List Char, (d.name.toList ++ x).head? = d.name.toList.head? := by
    intro x
    rw [List.head?_append, List.head?_eq_some_head hne]
    rfl
  rcases render_cases h with ⟨-, hr⟩ | ⟨v, hv, hr, -⟩
  · rw [hr]
    exact ⟨h.head, h.getLast⟩
  · rw [hr, toList_assign, hhead]
    refine ⟨h.head, fun c hc => ?_⟩
    rw [List.getLast?_append, List.getLast?_cons, Option.some_or, Option.mem_def,
      Option.some.injEq] at hc
    subst hc
    cases hlast : v.toList.getLast? with
    | none => decide
    | some x => exact hv.last x hlast

theorem members_render (h : d.Rereadable) (hq : Scan.start.run d.name.toList = Scan.start) :
    members d.render = [d.render] := by
  have hp : pieces d.render = [d.render] := by
    simp [pieces, piecesFrom_of_uncut (h.closed_render hq).2]
  have htrim : trimOws d.render = d.render := by
    obtain ⟨hh, hl⟩ := h.ends_render
    rw [← String.toList_inj, trimOws, String.toList_ofList,
      trimList_eq_self (fun c hc => isOws_of_isBlank (hh c hc))
        (fun c hc => isOws_of_isBlank (hl c hc))]
  have hne : d.render.isEmpty = false := by
    rcases render_cases h with ⟨-, hr⟩ | ⟨v, -, hr, -⟩
    · simpa [hr] using h.nonempty
    · simp [hr, String.isEmpty_eq_false_iff]
  simp [members, hp, htrim, hne]

theorem readMember?_render (h : d.Rereadable) : readMember? d.render = some d.reread := by
  have hname : normalizeName (String.ofList d.name.toList) = d.name := by
    rw [String.ofList_toList, h.normal]
  have hempty : d.name.isEmpty = false := String.isEmpty_eq_false_iff.mpr h.nonempty
  rcases render_cases h with ⟨ha, hr⟩ | ⟨v, -, hr, hv⟩
  · have hspan : d.name.toList.span (· != '=') = (d.name.toList, []) := by
      simpa using span_append_of_not_mem [] h.noEquals
    simp only [readMember?, hr, hspan, hname, hempty]
    simp [reread, ha, Argument.reread]
  · have hspan : (d.name ++ "=" ++ v).toList.span (· != '=') =
        (d.name.toList, '=' :: v.toList) := by
      simpa using span_append_of_not_mem ('=' :: v.toList) h.noEquals
    simp only [readMember?, hr, hspan, hname, hempty]
    simp [reread, hv]

end Rereadable

/-- 読み直せて名前が引用符の外で終わるディレクティブの列は、書き出した形をそれぞれ要素に
切り分けて読むと `reread` の列になる。列に沿った帰納法。 -/
theorem readMembers_render {l : List Directive}
    (hl : ∀ d ∈ l, d.Rereadable ∧ Scan.start.run d.name.toList = Scan.start) :
    ((l.map render).flatMap members).filterMap readMember? = l.map reread := by
  induction l with
  | nil => rfl
  | cons d l ih =>
    obtain ⟨hr, hq⟩ := hl d List.mem_cons_self
    simp [hr.members_render hq, hr.readMember?_render,
      ih fun x hx => hl x (List.mem_cons_of_mem _ hx)]

end Directive

namespace Entries

open HttpCaching.Field

/-- 名前の重ならない、読み直せるディレクティブの表は、どの名前も引用符の外で終われば、
書き出して一行として読むと `reread` した表になる。名前も順序もそのまま。 -/
theorem read_render {e : Entries} (hn : e.names.Nodup) (hr : ∀ d ∈ e.toList, d.Rereadable)
    (hq : ∀ d ∈ e.toList, Scan.start.run d.name.toList = Scan.start) :
    read [e.render] = e.toList.map Directive.reread := by
  have hlines : ∀ x ∈ (e.toList.map Directive.render).dropLast,
      Scan.start.run x.toList = Scan.start := by
    intro x hx
    obtain ⟨d, hd, rfl⟩ := List.mem_map.mp (List.mem_of_mem_dropLast hx)
    exact ((hr d hd).closed_render (hq d hd)).1
  have hnames : ((e.toList.map Directive.reread).map (·.name)).Nodup := by
    simpa [List.map_map, Function.comp_def, Directive.reread, names_eq] using hn
  rw [Entries.render, read_intercalate _ hlines, Field.read,
    Directive.readMembers_render fun d hd => ⟨hr d hd, hq d hd⟩,
    toList_putAll_of_nodup Wf.empty _ hnames (by simp [Entries.empty])]
  rfl

end Entries

end HttpCaching
