import Mathlib
import HttpCaching.Proofs.Rules.Validate
/-!
# 規則の選び方

要求に当てる規則は、並びの中で条件をすべて満たす最初のもの。条件は照合の式から離して
`Rule.Fits` に書く。方法が空なら要求は GET、そうでなければ同じ方法。パスは空か同じ。接頭辞は
パスの接頭辞 (空の接頭辞はどのパスにも合う)。問い合わせの組は、値が空なら名前があること、
そうでなければその名前の最初の値がその値であること。

保存した方針から作る規則の並びは、接頭辞の長い順に挿入して作る。挿入は並びを長い順に保ち、
並びの最初に合うものは、入れた順で見て合うものの中の最長のうち最初のもの (`FirstLongest`)。
GET でない要求にはどれも合わない。応答の書き換えは、状態が 200 でなければ何もしない。

主な主張は `rule_selection`。
-/

namespace HttpCaching.Http

/-! ## 問い合わせの名前と値 -/

theorem Target.hasParam_iff (t : Target) (n : List Nat) :
    t.hasParam n = true ↔ ∃ v, (n, v) ∈ queryPairs t.rawQuery := by
  simp [Target.hasParam, List.any_eq_true]

theorem find?_name_eq_some_iff (qs : List (List Nat × List Nat)) (n v : List Nat) :
    qs.find? (·.1 == n) = some (n, v) ↔ ∃ pre post, qs = pre ++ (n, v) :: post ∧ ∀ x ∈ pre, x.1 ≠ n := by
  rw [List.find?_eq_some_iff_append]
  simp

theorem Target.paramIs_iff (t : Target) (n : List Nat) {v : List Nat} (hv : v ≠ []) :
    t.paramIs n v = true ↔ (queryPairs t.rawQuery).find? (·.1 == n) = some (n, v) := by
  unfold Target.paramIs
  cases hf : (queryPairs t.rawQuery).find? (·.1 == n) with
  | none => simpa using hv.symm
  | some x =>
    -- 見つかった組の名前は探した名前
    have hx : x.1 = n := by simpa using List.find?_some hf
    obtain ⟨k, w⟩ := x
    simp only at hx
    subst hx
    simp

end HttpCaching.Http

namespace HttpCaching.Rules

/-! ## 規則が要求に合うこと -/

/-- 規則が要求に求めること。照合する関数とは別に述べる: メソッド (規則が名指さなければ GET)、
名指せばちょうどのパス、パスの接頭辞 (空のものはどのパスにも合う)、問い合わせの項目それぞれに
ついて、名前があること (空の値) か、名前の最初の値が与えたものであること。 -/
structure Rule.Fits (r : Rule) (req : Http.Request) : Prop where
  method : if r.method = [] then req.method = "GET" else r.method = Text.bytesOf req.method
  path : r.path = [] ∨ req.target.pathOctets = r.path
  pathPrefix : r.pathPrefix <+: req.target.pathOctets
  present : ∀ n, (n, []) ∈ (r.query.getD ∅).toList → ∃ v, (n, v) ∈ Http.queryPairs req.target.rawQuery
  valued : ∀ n v, (n, v) ∈ (r.query.getD ∅).toList → v ≠ [] →
    ∃ pre post, Http.queryPairs req.target.rawQuery = pre ++ (n, v) :: post ∧ ∀ x ∈ pre, x.1 ≠ n

theorem all_query_iff (qs : List (List Nat × List Nat)) (t : Http.Target) :
    (qs.all fun q => if q.2.isEmpty then t.hasParam q.1 else t.paramIs q.1 q.2) = true ↔
      (∀ n, (n, []) ∈ qs → ∃ v, (n, v) ∈ Http.queryPairs t.rawQuery) ∧
      ∀ n v, (n, v) ∈ qs → v ≠ [] →
        ∃ pre post, Http.queryPairs t.rawQuery = pre ++ (n, v) :: post ∧ ∀ x ∈ pre, x.1 ≠ n := by
  rw [List.all_eq_true]
  constructor
  · intro h
    refine ⟨fun n hn => ?_, fun n v hn hv => ?_⟩
    · simpa [Http.Target.hasParam_iff] using h _ hn
    · have := h _ hn
      simp only [List.isEmpty_iff, hv, if_false] at this
      rwa [Http.Target.paramIs_iff _ _ hv, Http.find?_name_eq_some_iff] at this
  · rintro ⟨hp, hval⟩ ⟨n, v⟩ hn
    by_cases hv : v = []
    · subst hv
      simpa [Http.Target.hasParam_iff] using hp n hn
    · simp only [List.isEmpty_iff, hv, if_false]
      rw [Http.Target.paramIs_iff _ _ hv, Http.find?_name_eq_some_iff]
      exact hval n v hn hv

theorem method_ok_iff (m : List Nat) (method : String) :
    (if m.isEmpty then method == "GET" else m == Text.bytesOf method) = true ↔
      if m = [] then method = "GET" else m = Text.bytesOf method := by
  by_cases hm : m = [] <;> simp [hm]

theorem Rule.matches_iff (r : Rule) (req : Http.Request) : r.matches req = true ↔ r.Fits req := by
  unfold Rule.matches
  simp only [Bool.and_eq_true]
  rw [method_ok_iff, all_query_iff]
  simp only [Bool.or_eq_true, List.isEmpty_iff, Http.Target.pathIs, beq_iff_eq,
    Http.Target.pathStartsWith, List.isPrefixOf_iff_prefix]
  constructor
  · rintro ⟨⟨⟨hm, hp⟩, hpre⟩, hq, hv⟩
    exact ⟨hm, hp, hpre.elim (fun h => h ▸ List.nil_prefix) id, hq, hv⟩
  · rintro ⟨hm, hp, hpre, hq, hv⟩
    exact ⟨⟨⟨hm, hp⟩, Or.inr hpre⟩, hq, hv⟩

/-- 最初に合う規則は、条件を満たす最初の規則で、その前の規則はどれも満たさない。 -/
theorem find?_eq_some_iff {rules : List Rule} {req : Http.Request} {r : Rule} :
    find? rules req = some r ↔
      ∃ pre post, rules = pre ++ r :: post ∧ r.Fits req ∧ ∀ x ∈ pre, ¬ x.Fits req := by
  rw [find?, List.find?_eq_some_iff_append]
  simp only [Rule.matches_iff, Bool.not_eq_true', ← Bool.not_eq_true]
  constructor
  · rintro ⟨hr, pre, post, he, hpre⟩
    exact ⟨pre, post, he, hr, hpre⟩
  · rintro ⟨pre, post, he, hr, hpre⟩
    exact ⟨hr, pre, post, he, hpre⟩

theorem find?_eq_none_iff {rules : List Rule} {req : Http.Request} :
    find? rules req = none ↔ ∀ r ∈ rules, ¬ r.Fits req := by
  simp [find?, List.find?_eq_none, Rule.matches_iff]

theorem findTraced_snd (req : Http.Request) (rules : List Rule) :
    (findTraced req rules).2 = find? rules req := by
  induction rules with
  | nil => rfl
  | cons r rs ih =>
    simp only [findTraced, find?, List.find?_cons]
    split <;> rename_i hm <;> simp only [hm]
    exact ih

/-! ## 長い接頭辞から並べる -/

/-- 接頭辞の長さの順の規則。最も長いものが先。 -/
def LongerFirst (a b : Rule) : Prop := b.pathPrefix.length ≤ a.pathPrefix.length

theorem pairwise_insertByPrefix (r : Rule) {acc : List Rule} (hs : acc.Pairwise LongerFirst) :
    (insertByPrefix r acc).Pairwise LongerFirst := by
  induction acc with
  | nil => simp [insertByPrefix]
  | cons x xs ih =>
    rw [List.pairwise_cons] at hs
    unfold insertByPrefix
    split
    · rename_i hle
      refine List.pairwise_cons.mpr ⟨fun y hy => ?_, ih hs.2⟩
      rcases mem_insertByPrefix.mp hy with rfl | hy
      · exact hle
      · exact hs.1 y hy
    · rename_i hlt
      refine List.pairwise_cons.mpr ⟨fun y hy => ?_, List.pairwise_cons.mpr hs⟩
      -- 入れる規則より後ろは、先頭の規則より長くない
      have hy : y.pathPrefix.length ≤ x.pathPrefix.length := by
        rcases List.mem_cons.mp hy with rfl | hy
        · exact le_rfl
        · exact hs.1 y hy
      exact le_trans hy (by omega)

/-- 長い順の並びに一つ入れたあとの検索: 新しい規則が見つかるのは、それが通り、前に見つかった
ものより真に長いときで、そうでなければ前の答えのまま。 -/
theorem find?_insertByPrefix (p : Rule → Bool) (r : Rule) {acc : List Rule}
    (hs : acc.Pairwise LongerFirst) :
    (insertByPrefix r acc).find? p =
      if p r ∧ (acc.find? p).all (fun b => b.pathPrefix.length < r.pathPrefix.length) then some r
      else acc.find? p := by
  induction acc with
  | nil => cases hr : p r <;> simp [insertByPrefix, hr]
  | cons x xs ih =>
    rw [List.pairwise_cons] at hs
    unfold insertByPrefix
    split
    · rename_i hle
      -- 入れる規則は先頭より後ろに入る
      rw [List.find?_cons, List.find?_cons]
      cases hx : p x
      · exact ih hs.2
      · have : ¬ x.pathPrefix.length < r.pathPrefix.length := by omega
        simp [this]
    · rename_i hlt
      rw [List.find?_cons]
      cases hr : p r
      · simp
      · -- 前に見つかったものは先頭より長くなく、先頭は入れる規則より短い
        have hall : ((x :: xs).find? p).all
            (fun b => b.pathPrefix.length < r.pathPrefix.length) = true := by
          cases hf : (x :: xs).find? p with
          | none => rfl
          | some b =>
            have hb : b.pathPrefix.length ≤ x.pathPrefix.length := by
              rcases List.mem_cons.mp (List.mem_of_find?_eq_some hf) with rfl | hb
              · exact le_rfl
              · exact hs.1 b hb
            simp only [Option.all_some, decide_eq_true_eq]
            omega
        simp [hall]

/-! ## 最長のうち最初のもの -/

section FirstLongest

variable {α : Type} {P : α → Prop} {len : α → Nat}

/-- `b` は、`xs` の合う要素のうち、最も長いものの最初: 合い、その前の合う要素はどれも真に短く、
その後の合う要素はどれも長くない。 -/
def FirstLongest (fits : α → Prop) (len : α → Nat) (xs : List α) (b : α) : Prop :=
  ∃ pre post, xs = pre ++ b :: post ∧ fits b ∧ (∀ x ∈ pre, fits x → len x < len b) ∧
    ∀ x ∈ post, fits x → len x ≤ len b

theorem FirstLongest.fits {xs : List α} {b : α} (h : FirstLongest P len xs b) : P b := by
  obtain ⟨_, _, _, hb, _⟩ := h
  exact hb

theorem FirstLongest.mem {xs : List α} {b : α} (h : FirstLongest P len xs b) : b ∈ xs := by
  obtain ⟨pre, post, rfl, _⟩ := h
  simp

theorem FirstLongest.le {xs : List α} {b : α} (h : FirstLongest P len xs b) :
    ∀ x ∈ xs, P x → len x ≤ len b := by
  obtain ⟨pre, post, rfl, _, hpre, hpost⟩ := h
  intro x hx hfx
  rcases List.mem_append.mp hx with hx | hx
  · exact le_of_lt (hpre x hx hfx)
  · rcases List.mem_cons.mp hx with rfl | hx
    · exact le_rfl
    · exact hpost x hx hfx

/-- 一つの並びの二つの場所: 後でないほうの場所が同じ場所か、そうでなければ前の要素は後ろの場所の
前にあり、後ろの要素は前の場所の後ろにある。 -/
theorem eq_or_before_of_append_eq {pre post pre' post' : List α} {b b' : α}
    (he : pre ++ b :: post = pre' ++ b' :: post') (hl : pre.length ≤ pre'.length) :
    b = b' ∨ (b ∈ pre' ∧ b' ∈ post) := by
  rcases List.append_eq_append_iff.mp he with ⟨as, rfl, hrest⟩ | ⟨bs, rfl, hrest⟩
  · cases as with
    | nil =>
      left
      exact (List.cons.inj hrest).1
    | cons a as =>
      obtain ⟨rfl, rfl⟩ := List.cons.inj hrest
      right
      simp
  · -- 後ろの場所が前にあることはない
    have hbs : bs = [] := by
      simp only [List.length_append] at hl
      exact List.eq_nil_of_length_eq_zero (by omega)
    subst hbs
    left
    exact ((List.cons.inj hrest).1).symm

theorem FirstLongest.unique {xs : List α} {b b' : α} (h : FirstLongest P len xs b)
    (h' : FirstLongest P len xs b') : b = b' := by
  obtain ⟨pre, post, rfl, hb, hpre, hpost⟩ := h
  obtain ⟨pre', post', he, hb', hpre', hpost'⟩ := h'
  rcases le_total pre.length pre'.length with hl | hl
  · rcases eq_or_before_of_append_eq he hl with heq | ⟨hin, hin'⟩
    · exact heq
    · have := hpre' b hin hb
      have := hpost b' hin' hb'
      omega
  · rcases eq_or_before_of_append_eq he.symm hl with heq | ⟨hin, hin'⟩
    · exact heq.symm
    · have := hpre b' hin hb'
      have := hpost' b hin' hb
      omega

theorem FirstLongest.of_iff {Q : α → Prop} {xs : List α} {b : α} (h : FirstLongest P len xs b)
    (hPQ : ∀ x, P x ↔ Q x) : FirstLongest Q len xs b := by
  obtain ⟨pre, post, he, hb, hpre, hpost⟩ := h
  exact ⟨pre, post, he, (hPQ b).mp hb, fun x hx hqx => hpre x hx ((hPQ x).mpr hqx),
    fun x hx hqx => hpost x hx ((hPQ x).mpr hqx)⟩

theorem FirstLongest.append {xs : List α} {b : α} (h : FirstLongest P len xs b) {x : α}
    (hx : P x → len x ≤ len b) : FirstLongest P len (xs ++ [x]) b := by
  obtain ⟨pre, post, rfl, hb, hpre, hpost⟩ := h
  refine ⟨pre, post ++ [x], by simp, hb, hpre, fun y hy hfy => ?_⟩
  rcases List.mem_append.mp hy with hy | hy
  · exact hpost y hy hfy
  · rw [List.mem_singleton.mp hy]
    exact hx (List.mem_singleton.mp hy ▸ hfy)

theorem firstLongest_append_self {xs : List α} {x : α} (hx : P x)
    (hlt : ∀ y ∈ xs, P y → len y < len x) : FirstLongest P len (xs ++ [x]) x :=
  ⟨xs, [], rfl, hx, hlt, by simp⟩

end FirstLongest

/-! ## 挿入を重ねた並び -/

/-- `xs` から作った規則の探索が、検査 `p` に対して答えてよいもの: 規則が検査を通る要素のうち
最長のものの最初の規則、または通る規則がなければなし。 -/
def Chosen {α : Type} (g : α → Rule) (p : Rule → Bool) (xs : List α) : Option Rule → Prop
  | some b => ∃ x, b = g x ∧
      FirstLongest (fun x => p (g x) = true) (fun x => (g x).pathPrefix.length) xs x
  | none => ∀ x ∈ xs, p (g x) = false

/-- 一つ入れる一歩 (`find?_insertByPrefix`) は、正しい答えを正しい答えに移す。 -/
theorem Chosen.append {α : Type} {g : α → Rule} {p : Rule → Bool} {xs : List α} {o : Option Rule}
    (hc : Chosen g p xs o) (x : α) :
    Chosen g p (xs ++ [x])
      (if p (g x) ∧ o.all (fun b => b.pathPrefix.length < (g x).pathPrefix.length) then some (g x)
        else o) := by
  cases o with
  | none =>
    cases hx : p (g x)
    · simp only [Bool.false_eq_true, false_and, if_false]
      intro y hy
      rcases List.mem_append.mp hy with hy | hy
      · exact hc y hy
      · rw [List.mem_singleton.mp hy, hx]
    · simp only [Option.all_none, and_self, if_true]
      -- 前に合うものはないので、最後の一つが選ばれる
      refine ⟨x, rfl, firstLongest_append_self hx fun y hy hfy => ?_⟩
      simp [hc y hy] at hfy
  | some b =>
    obtain ⟨y, rfl, hy⟩ := hc
    simp only [Option.all_some, decide_eq_true_eq]
    by_cases hcond : p (g x) = true ∧ (g y).pathPrefix.length < (g x).pathPrefix.length
    · rw [if_pos hcond]
      exact ⟨x, rfl, firstLongest_append_self hcond.1 fun z hz hfz =>
        lt_of_le_of_lt (hy.le z hz hfz) hcond.2⟩
    · rw [if_neg hcond]
      exact ⟨y, rfl, hy.append fun hfx => not_lt.mp fun hlt => hcond ⟨hfx, hlt⟩⟩

/-- 規則を一つずつ長い順の並びに入れると、並びは長い順のままで、どの検査でも並びの最初に通る
規則は、入れた順で見て通るものの最長のうち最初のものの規則。見つからなければどれも通らない。 -/
theorem chosen_foldl_insertByPrefix {α : Type} (g : α → Rule) (p : Rule → Bool) (xs : List α) :
    (xs.foldl (fun acc x => insertByPrefix (g x) acc) []).Pairwise LongerFirst ∧
      Chosen g p xs ((xs.foldl (fun acc x => insertByPrefix (g x) acc) []).find? p) := by
  -- 入れた順の最後から: 最後に入れた規則の一歩は `find?_insertByPrefix` と `Chosen.append`
  induction xs using List.reverseRecOn with
  | nil => exact ⟨List.Pairwise.nil, fun x hx => by simp at hx⟩
  | append_singleton xs x ih =>
    obtain ⟨hs, hc⟩ := ih
    rw [List.foldl_append, List.foldl_cons, List.foldl_nil, find?_insertByPrefix p (g x) hs]
    exact ⟨pairwise_insertByPrefix _ hs, hc.append x⟩

/-! ## 保存した方針の規則を選ぶ -/

theorem ofPolicies_eq_foldl (ps : List Policy) :
    ofPolicies ps = ps.foldl (fun acc p => insertByPrefix (Rule.ofPolicy p) acc) [] := by
  rw [ofPolicies, List.foldl_map]

section Policies

variable {req : Http.Request}

theorem matches_ofPolicy (hget : req.method = "GET") (p : Policy) :
    (Rule.ofPolicy p).matches req = true ↔ Text.bytesOf p.pathPrefix <+: req.target.pathOctets := by
  rw [Rule.matches_iff]
  constructor
  · exact fun h => h.pathPrefix
  · intro h
    exact ⟨by simp [Rule.ofPolicy, hget], Or.inl rfl, h, by simp [Rule.ofPolicy],
      by simp [Rule.ofPolicy]⟩

theorem matches_ofPolicy_of_ne (hm : req.method ≠ "GET") (p : Policy) :
    (Rule.ofPolicy p).matches req = false := by
  rw [Bool.eq_false_iff]
  intro h
  exact hm (by simpa [Rule.ofPolicy] using ((Rule.matches_iff _ _).mp h).method)

/-- GET の要求に方針の規則の並びから選ぶものを、方針の接頭辞で言う。 -/
theorem chosen_ofPolicies (hget : req.method = "GET") (ps : List Policy) :
    match find? (ofPolicies ps) req with
    | some r => ∃ p, r = Rule.ofPolicy p ∧
        FirstLongest (fun p => Text.bytesOf p.pathPrefix <+: req.target.pathOctets)
          (fun p => (Text.bytesOf p.pathPrefix).length) ps p
    | none => ∀ p ∈ ps, ¬ Text.bytesOf p.pathPrefix <+: req.target.pathOctets := by
  have hc := (chosen_foldl_insertByPrefix Rule.ofPolicy (·.matches req) ps).2
  rw [← ofPolicies_eq_foldl] at hc
  unfold find?
  cases hf : (ofPolicies ps).find? (·.matches req) with
  | none =>
    rw [hf] at hc
    intro p hp hpre
    have hno : (Rule.ofPolicy p).matches req = false := hc p hp
    rw [(matches_ofPolicy hget p).mpr hpre] at hno
    exact Bool.noConfusion hno
  | some b =>
    rw [hf] at hc
    obtain ⟨x, rfl, hx⟩ := hc
    exact ⟨x, rfl, hx.of_iff (matches_ofPolicy hget)⟩

theorem find?_ofPolicies_eq_some_iff (hget : req.method = "GET") (ps : List Policy)
    (r : Rule) :
    find? (ofPolicies ps) req = some r ↔ ∃ p, r = Rule.ofPolicy p ∧
      FirstLongest (fun p => Text.bytesOf p.pathPrefix <+: req.target.pathOctets)
        (fun p => (Text.bytesOf p.pathPrefix).length) ps p := by
  have hc := chosen_ofPolicies hget ps
  cases hf : find? (ofPolicies ps) req with
  | none =>
    rw [hf] at hc
    simp only [reduceCtorEq, false_iff, not_exists, not_and]
    intro p _ hp
    exact hc p hp.mem hp.fits
  | some b =>
    rw [hf] at hc
    obtain ⟨x, rfl, hx⟩ := hc
    constructor
    · intro h
      exact ⟨x, (Option.some.inj h).symm, hx⟩
    · -- 最長のうち最初のものは一つ
      rintro ⟨p, rfl, hp⟩
      rw [hx.unique hp]

theorem find?_ofPolicies_eq_none_iff (hget : req.method = "GET") (ps : List Policy) :
    find? (ofPolicies ps) req = none ↔
      ∀ p ∈ ps, ¬ Text.bytesOf p.pathPrefix <+: req.target.pathOctets := by
  have hc := chosen_ofPolicies hget ps
  cases hf : find? (ofPolicies ps) req with
  | none =>
    rw [hf] at hc
    exact iff_of_true rfl hc
  | some b =>
    rw [hf] at hc
    obtain ⟨x, -, hx⟩ := hc
    exact iff_of_false (by simp) fun h => h x hx.mem hx.fits

theorem find?_ofPolicies_of_ne (hm : req.method ≠ "GET") (ps : List Policy) :
    find? (ofPolicies ps) req = none := by
  rw [find?, List.find?_eq_none]
  intro r hr
  obtain ⟨p, -, rfl⟩ := mem_ofPolicies hr
  simp [matches_ofPolicy_of_ne hm p]

end Policies

/-! ## 応答の書き換え -/

theorem applyRules_of_ne {status : Int} (hs : status ≠ 200) (rules : List Rule)
    (req : Http.Request) (h : Http.Header) : applyRules rules status req h = ⟨h, none, []⟩ := by
  unfold applyRules
  rw [if_pos (by simpa using hs)]

/-- 状態が 200 の応答は、最初に合う規則のヘッダーと失敗を得る。合う規則がなければヘッダーは
そのまま。 -/
theorem applyRules_ok (rules : List Rule) (req : Http.Request) (h : Http.Header) :
    (applyRules rules 200 req h).header =
        ((find? rules req).map fun r => (r.applyToHeader h).header).getD h ∧
      (applyRules rules 200 req h).failure = (find? rules req).bind fun r => (r.applyToHeader h).failure := by
  unfold applyRules
  rw [if_neg (by decide), ← findTraced_snd]
  dsimp only
  split <;> rename_i hfind <;> simp [hfind]

/-! ## 主な主張 -/

/-- 規則の選び方。並びから選ぶ規則は、条件 (`Rule.Fits`) をすべて満たす最初のもので、どれも
満たさなければ何も選ばない。保存した方針の規則の並びは、GET の要求には、接頭辞がパスの接頭辞に
なる方針のうち、接頭辞のバイト数が最長のものの中で入力の順に最初のものの規則を選び、そういう方針が
なければ何も選ばない。GET でない要求には何も選ばない。応答の書き換えは、状態が 200 でなければ
ヘッダーをそのまま返し、失敗も記録もない。200 なら、選んだ規則のヘッダーと失敗になり、選ぶ規則が
なければヘッダーはそのまま。 -/
theorem rule_selection :
    (∀ (rules : List Rule) (req : Http.Request) (r : Rule), find? rules req = some r ↔
        ∃ pre post, rules = pre ++ r :: post ∧ r.Fits req ∧ ∀ x ∈ pre, ¬ x.Fits req) ∧
    (∀ (rules : List Rule) (req : Http.Request),
        find? rules req = none ↔ ∀ r ∈ rules, ¬ r.Fits req) ∧
    (∀ (ps : List Policy) (req : Http.Request), req.method = "GET" → ∀ r,
        find? (ofPolicies ps) req = some r ↔ ∃ p, r = Rule.ofPolicy p ∧
          FirstLongest (fun p => Text.bytesOf p.pathPrefix <+: req.target.pathOctets)
            (fun p => (Text.bytesOf p.pathPrefix).length) ps p) ∧
    (∀ (ps : List Policy) (req : Http.Request), req.method = "GET" →
        (find? (ofPolicies ps) req = none ↔
          ∀ p ∈ ps, ¬ Text.bytesOf p.pathPrefix <+: req.target.pathOctets)) ∧
    (∀ (ps : List Policy) (req : Http.Request), req.method ≠ "GET" →
        find? (ofPolicies ps) req = none) ∧
    (∀ rules (status : Int) req h, status ≠ 200 → applyRules rules status req h = ⟨h, none, []⟩) ∧
    (∀ rules req h,
        (applyRules rules 200 req h).header =
            ((find? rules req).map fun r => (r.applyToHeader h).header).getD h ∧
          (applyRules rules 200 req h).failure =
            (find? rules req).bind fun r => (r.applyToHeader h).failure) :=
  ⟨fun _ _ _ => find?_eq_some_iff, fun _ _ => find?_eq_none_iff,
    fun ps _ hget r => find?_ofPolicies_eq_some_iff hget ps r,
    fun ps _ hget => find?_ofPolicies_eq_none_iff hget ps,
    fun ps _ hm => find?_ofPolicies_of_ne hm ps,
    fun rules _ req h hs => applyRules_of_ne hs rules req h, applyRules_ok⟩

/-- 方針 `/`、`/api` (二つ)、`/apx` から作る規則は、`/api/v1` への GET には最初の `/api` の
方針の規則を選び、同じパスへの POST には何も選ばない。 -/
theorem first_longest_policy_chosen :
    let ps : List Policy :=
      [⟨"/", "no-cache"⟩, ⟨"/api", "max-age=1"⟩, ⟨"/api", "max-age=2"⟩, ⟨"/apx", "no-store"⟩]
    find? (ofPolicies ps) ⟨"GET", ⟨Text.bytesOf "/api/v1", ""⟩, Http.Header.empty⟩ =
        some (Rule.ofPolicy ⟨"/api", "max-age=1"⟩) ∧
      find? (ofPolicies ps) ⟨"POST", ⟨Text.bytesOf "/api/v1", ""⟩, Http.Header.empty⟩ = none := by
  intro ps
  refine ⟨(rule_selection.2.2.1 ps _ rfl _).mpr ⟨_, rfl, ?_⟩,
    rule_selection.2.2.2.2.1 ps _ (by decide)⟩
  -- 前の `/` は短く、後ろの `/api` は同じ長さ、`/apx` はパスの接頭辞でない
  exact ⟨[⟨"/", "no-cache"⟩], [⟨"/api", "max-age=2"⟩, ⟨"/apx", "no-store"⟩], rfl,
    by decide +kernel, by decide +kernel, by decide +kernel⟩

end HttpCaching.Rules
