import HttpCaching.RequestCache
import HttpCaching.Proofs.Field.Join
/-!
# 要求ディレクティブの記憶は、行がきれいにつながる限り見えない

記憶は LRU を引数に取る。LRU について仮定するのは有界な写像の法則 (`Lru.BoundedMap`) だけ:
持つ数は容量を超えず、引いた値は覗いた値で、引いてもどの鍵の値も変わらず、足した後のどの鍵も
最後に足した値を持つか追い出されている。動かすときの列の LRU はこの法則を満たす
(`LruList.boundedMap`)。

記憶の鍵は行を `", "` でつないだ一行で、表が持つのは最初にその鍵で読んだ行の結果。
鍵の前提は、複数の行がつないだ一行と同じに読めること。最後の行以外が引用符の外で
終わっていればそうなる (`Field.read_intercalate`)。

不変条件 `Faithful`: 表が持つ結果はどれも、鍵を一行として読んだもの。作った記憶・無い記憶・
消した記憶はこれを満たし、そうした行の `get` はこれを保つ。主な主張は `get_directives_of_reached`:
法則を満たすどの LRU の上でも、そうした `get` と `purge` だけを重ねた記憶では、`get` の答えは
いつも行を新しく読んだものと同じ。引用符を開いたまま終わる行があると、鍵が同じで読みの違う
行に、前の結果を返す (`get_shares_across_open_quote`)。
-/
namespace HttpCaching

/-! ## 有界な写像の法則 -/

namespace Lru

variable {σ α : Type}

/-- 有界な写像の法則: 持つ数は容量を超えず、作った表の容量は与えた大きさで、どの操作も容量を
変えない。引いた値は覗いた値で、引いてもどの鍵の値も変わらない (使った順だけが変わる)。
足した後のどの鍵も、最後に足した値を持つか、追い出されて何も持たない。作った表と空にした表は
何も持たない。 -/
structure BoundedMap (L : Lru σ α) : Prop where
  len_le : ∀ s, L.len s ≤ L.capacity s
  capacity_new : ∀ n, L.capacity (L.new n) = n
  capacity_step : ∀ s k v, L.capacity (L.get s k).1 = L.capacity s ∧
    L.capacity (L.add s k v) = L.capacity s ∧ L.capacity (L.purge s) = L.capacity s
  get_eq_peek : ∀ s k, (L.get s k).2 = L.peek s k
  peek_get : ∀ s k k', L.peek (L.get s k).1 k' = L.peek s k'
  peek_add : ∀ s k v k', L.peek (L.add s k v) k' = none ∨
    L.peek (L.add s k v) k' = if k' = k then some v else L.peek s k'
  peek_new : ∀ n k, L.peek (L.new n) k = none
  peek_purge : ∀ s k, L.peek (L.purge s) k = none

end Lru

/-! ## 列の LRU -/

namespace LruList

variable {α : Type}

theorem find?_take (p : String × α → Bool) (l : List (String × α)) (n : Nat) :
    (l.take n).find? p = none ∨ (l.take n).find? p = l.find? p := by
  induction l generalizing n with
  | nil => exact .inl (by simp)
  | cons x xs ih =>
    cases n with
    | zero => exact .inl rfl
    | succ n =>
      rw [List.take_succ_cons, List.find?_cons, List.find?_cons]
      cases p x with
      | true => exact .inr rfl
      | false => exact ih n

theorem find?_filter_ne {l : List (String × α)} {k k' : String} (h : k' ≠ k) :
    (l.filter (·.1 != k)).find? (·.1 == k') = l.find? (·.1 == k') := by
  rw [List.find?_filter]
  congr 1
  funext x
  by_cases hx : x.1 = k'
  · simp [hx, h]
  · simp [hx]

/-- 鍵の項目を除いて先頭に置いた列で探すと、その鍵には置いた値、ほかの鍵には元の列の値。 -/
theorem find?_cons_filter (l : List (String × α)) (k k' : String) (v : α) :
    (((k, v) :: l.filter (·.1 != k)).find? (·.1 == k')).map (·.2) =
      if k' = k then some v else (l.find? (·.1 == k')).map (·.2) := by
  by_cases hk : k' = k
  · simp [hk]
  · simp only [List.find?_cons, hk, if_false]
    rw [show ((k, v).1 == k') = false by simpa using Ne.symm hk, find?_filter_ne hk]

theorem peek_get (s : LruList α) (k k' : String) : (s.get k).1.peek k' = s.peek k' := by
  unfold get
  split
  · rename_i k₀ v h
    show (((k, v) :: s.entries.filter (·.1 != k)).find? (·.1 == k')).map (·.2) = s.peek k'
    rw [find?_cons_filter]
    split
    · -- 見つかった項目の値は、引いた鍵の値
      rename_i hk
      subst hk
      simp [peek, h]
    · rfl
  · rfl

theorem get_eq_peek (s : LruList α) (k : String) : (s.get k).2 = s.peek k := by
  unfold get
  split
  · rename_i k₀ v h
    simp [peek, h]
  · rename_i h
    simp [peek, h]

theorem peek_add (s : LruList α) (k : String) (v : α) (k' : String) :
    (s.add k v).peek k' = none ∨ (s.add k v).peek k' = if k' = k then some v else s.peek k' := by
  have hfull := find?_cons_filter s.entries k k' v
  rcases find?_take (·.1 == k') ((k, v) :: s.entries.filter (·.1 != k)) s.capacity with h | h
  · left
    simp only [peek, add]
    rw [h]
    rfl
  · right
    simp only [peek, add]
    rw [h]
    exact hfull

theorem boundedMap : (lru : Lru (LruList α) α).BoundedMap where
  len_le s := s.bounded
  capacity_new _ := rfl
  capacity_step s k _ := by
    refine ⟨?_, rfl, rfl⟩
    show (s.get k).1.capacity = s.capacity
    unfold get
    split <;> rfl
  get_eq_peek := get_eq_peek
  peek_get := peek_get
  peek_add := peek_add
  peek_new _ _ := rfl
  peek_purge _ _ := rfl

end LruList

/-! ## 記憶の不変条件 -/

namespace RequestCache

open HttpCaching.Field

variable {σ : Type} {L : Lru σ Parsed}

/-- 最後の行以外がどれも引用符の外で終わる行の並び。つないだ一行と同じに読める。 -/
def Joinable (lines : List String) : Prop :=
  ∀ x ∈ lines.dropLast, Scan.start.run x.toList = Scan.start

theorem read_key {lines : List String} (h : Joinable lines) : read [key lines] = read lines :=
  read_intercalate lines h

/-- `get` がすること: 新しく読むか (無い記憶か長すぎる鍵)、表で見つけた結果を返すか、
見つからずに新しく読んで表に足すか。 -/
theorem get_cases (c : RequestCache σ) (lines : List String) :
    c.get L lines = c.fresh lines ∨
      (∃ s s' p, c.lru = some s ∧ L.get s (key lines) = (s', some p) ∧
        c.get L lines = ({ c with lru := some s' }, p)) ∨
      (∃ s s', c.lru = some s ∧ L.get s (key lines) = (s', none) ∧
        c.get L lines = (⟨some (L.add s' (key lines) (parse c.nextSerial lines)), c.nextSerial + 1⟩,
          parse c.nextSerial lines)) := by
  unfold get
  cases hl : c.lru with
  | none => exact .inl rfl
  | some s =>
    dsimp only
    split
    · exact .inl rfl
    · rcases hg : L.get s (key lines) with ⟨s', _ | p⟩
      · exact .inr (.inr ⟨s, s', rfl, hg, rfl⟩)
      · exact .inr (.inl ⟨s, s', p, rfl, hg, rfl⟩)

variable (L) in
/-- 表が持つ結果はどれも、鍵を一行として読んだもの。 -/
def Faithful (c : RequestCache σ) : Prop :=
  ∀ s ∈ c.lru, ∀ k p, L.peek s k = some p → p.directives = Directives.ofList .request (read [k])

theorem faithful_create (hL : L.BoundedMap) (size : Int) : (create L size).Faithful L := by
  intro s hs k p hp
  obtain rfl : L.new _ = s := Option.some.inj hs
  rw [hL.peek_new] at hp
  cases hp

theorem faithful_disabled : (disabled : RequestCache σ).Faithful L := by
  intro s hs
  cases hs

theorem Faithful.purge (hL : L.BoundedMap) {c : RequestCache σ} (_ : c.Faithful L) :
    (c.purge L).Faithful L := by
  intro s hs k p hp
  obtain ⟨s₀, -, rfl⟩ := Option.map_eq_some_iff.mp hs
  rw [hL.peek_purge] at hp
  cases hp

/-- つないだ一行と同じに読める行の `get` は、新しく読んだ結果を返し、不変条件を保つ。 -/
theorem Faithful.get (hL : L.BoundedMap) {c : RequestCache σ} (hc : c.Faithful L)
    {lines : List String} (hl : Joinable lines) :
    (c.get L lines).2.directives = Directives.ofList .request (read lines) ∧
      (c.get L lines).1.Faithful L := by
  rcases get_cases c lines with he | ⟨s, s', p, hs, hg, he⟩ | ⟨s, s', hs, hg, he⟩ <;> rw [he]
  · exact ⟨rfl, hc⟩
  · -- 見つけた結果は鍵を一行として読んだもので、引いた表はどの鍵の値も変えない
    have hp : L.peek s (key lines) = some p := by rw [← hL.get_eq_peek, hg]
    refine ⟨by rw [hc s hs _ p hp, read_key hl], ?_⟩
    intro t ht k q hq
    obtain rfl : s' = t := Option.some.inj ht
    have hpeek := hL.peek_get s (key lines) k
    rw [hg] at hpeek
    exact hc s hs k q (hpeek ▸ hq)
  · refine ⟨rfl, ?_⟩
    intro t ht k q hq
    obtain rfl : L.add s' (key lines) (parse c.nextSerial lines) = t := Option.some.inj ht
    -- 足した鍵は新しく読んだ結果を持ち、ほかの鍵は引く前の表と同じ値か何も持たない
    rcases hL.peek_add s' (key lines) (parse c.nextSerial lines) k with hn | hv
    · rw [hn] at hq
      cases hq
    · rw [hv] at hq
      split at hq
      · rename_i hk
        subst hk
        cases hq
        rw [read_key hl]
        rfl
      · have hpeek := hL.peek_get s (key lines) k
        rw [hg] at hpeek
        exact hc s hs k q (hpeek ▸ hq)

variable (L) in
/-- 作った記憶 (大きさはどれでも) か無い記憶に、つないだ一行と同じに読める行の `get` と、
`purge` を重ねて得られる記憶。 -/
inductive Reached : RequestCache σ → Prop
  | created (size : Int) : Reached (create L size)
  | disabled : Reached disabled
  | get {c : RequestCache σ} {lines : List String} : Joinable lines → Reached c →
      Reached (c.get L lines).1
  | purge {c : RequestCache σ} : Reached c → Reached (c.purge L)

theorem Reached.faithful (hL : L.BoundedMap) {c : RequestCache σ} (h : c.Reached L) :
    c.Faithful L := by
  induction h with
  | created size => exact faithful_create hL size
  | disabled => exact faithful_disabled
  | get hl _ ih => exact (ih.get hL hl).2
  | purge _ ih => exact ih.purge hL

/-- 有界な写像の法則を満たすどの LRU の上でも、そうした記憶につないだ一行と同じに読める行で
`get` すると、行を新しく読んだ結果が返る。 -/
theorem get_directives_of_reached (hL : L.BoundedMap) {c : RequestCache σ} (hc : c.Reached L)
    {lines : List String} (hl : Joinable lines) :
    (c.get L lines).2.directives = Directives.ofList .request (read lines) :=
  ((hc.faithful hL).get hL hl).1

/-- 列の LRU で、引用符の中にコンマのある二行を読んで覚えた後、それをつないだ一行で `get`
すると、覚えた結果が返り、それはその一行を新しく読んだものと同じ。 -/
theorem get_joined_after_lines :
    Joinable ["no-cache=\"a, b\"", "max-age=5"] ∧ Joinable ["no-cache=\"a, b\", max-age=5"] ∧
      ((((create LruList.lru 2).get LruList.lru ["no-cache=\"a, b\"", "max-age=5"]).1.get
          LruList.lru ["no-cache=\"a, b\", max-age=5"]).2.directives =
        Directives.ofList .request (read ["no-cache=\"a, b\", max-age=5"])) := by
  have h1 : Joinable ["no-cache=\"a, b\"", "max-age=5"] := by
    simp only [Joinable]
    decide
  have h2 : Joinable ["no-cache=\"a, b\", max-age=5"] := by
    simp [Joinable]
  exact ⟨h1, h2, get_directives_of_reached LruList.boundedMap (.get h1 (.created 2)) h2⟩

/-- 引用符を開いたまま終わる行 `a="x` と `b` は鍵 `a="x, b` に二つのディレクティブとして
覚えられ、同じ鍵の一行 `a="x, b` を `get` するとそれが返る。その一行を新しく読むと、
ディレクティブは一つ。 -/
theorem get_shares_across_open_quote :
    (((create LruList.lru 2).get LruList.lru ["a=\"x", "b"]).1.get
        LruList.lru ["a=\"x, b"]).2.directives.size = 2 ∧
      (Directives.ofList .request (read ["a=\"x, b"])).size = 1 := by
  decide +kernel

end RequestCache

end HttpCaching
