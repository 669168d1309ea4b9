import Mathlib.Logic.Function.Basic
import Mathlib.Data.List.Sort
import HttpCaching.Policy.Store
import HttpCaching.Proofs.Text.Utf8
/-!
# 方針の保管庫は有限の写像

保管庫は、接頭辞から正規形の値への有限の写像 `M` として振る舞う (`MapStep`)。

* 保存は、値に正規形がなければ失敗して `M` を変えず、あれば `M[p]` を正規形にしてそれを返す。
* 読み出しは `M[p]` とそれがあるかを返す。
* 一覧は `M` の項目をそれぞれ一度ずつ、接頭辞のバイト順に返す (`Listed`)。
* 消去は `p` を除く。ない `p` でもよい。

メモリ上の保管庫は、接頭辞の順に並んだ重複のない列を持ち、それがそのまま `M` の一覧になる
(`Listed.insertPolicy`, `Listed.purge`)。表の保管庫が頼るのは、データベースが `policies` 表に
四つの文を SQLite のとおりに走らせることだけ (`Sqlite`)。空の表から始めれば、どちらもどの呼び出しの
列にも写像のとおりに答え (`mapRun_memory`, `mapRun_table`)、写像の答えは一通りしかないので
(`MapRun.det`)、二つの保管庫の答えは同じ。

メモリ上の列も表の一覧も、接頭辞が表すバイトの順 (`Text.bytesBefore`) に並ぶ。
-/
namespace HttpCaching.Policy

open Sql Text

/-! ## 写像の一覧 -/

/-- 接頭辞の写像の一覧: どの項目も一度ずつ、接頭辞が表すバイトの順に並ぶ。 -/
structure Listed (M : String → Option String) (ps : List Policy) : Prop where
  sorted : ps.Pairwise fun a b => bytesBefore a.pathPrefix b.pathPrefix
  mem : ∀ x, x ∈ ps ↔ M x.pathPrefix = some x.cacheControl

theorem Listed.nil : Listed (fun _ => none) [] := ⟨.nil, by simp⟩

theorem Listed.unique {M : String → Option String} {ps qs : List Policy} (h : Listed M ps)
    (h' : Listed M qs) : ps = qs := by
  have : Std.Irrefl fun a b : Policy => bytesBefore a.pathPrefix b.pathPrefix :=
    ⟨fun a h => by rw [bytesBefore_irrefl] at h; cases h⟩
  have : Std.Antisymm fun a b : Policy => bytesBefore a.pathPrefix b.pathPrefix :=
    ⟨fun _ _ hab hba => by rw [bytesBefore_asymm hab] at hba; cases hba⟩
  exact h.sorted.eq_of_mem_iff h'.sorted fun x => by rw [h.mem, h'.mem]

theorem Listed.find?_eq {M : String → Option String} {ps : List Policy} (h : Listed M ps)
    (q : String) : ps.find? (·.pathPrefix == q) = (M q).map (⟨q, ·⟩) := by
  cases hq : M q with
  | none =>
    rw [Option.map_none, List.find?_eq_none]
    intro x hx hxq
    have hxq : x.pathPrefix = q := by simpa using hxq
    simpa [hxq, hq] using (h.mem x).1 hx
  | some v =>
    have hmem : (⟨q, v⟩ : Policy) ∈ ps := (h.mem _).2 hq
    obtain ⟨y, hy⟩ : ∃ y, ps.find? (·.pathPrefix == q) = some y :=
      Option.isSome_iff_exists.1 (List.find?_isSome.2 ⟨_, hmem, by simp⟩)
    have hyq : y.pathPrefix = q := by simpa using List.find?_some hy
    have hyv : M y.pathPrefix = some y.cacheControl := (h.mem y).1 (List.mem_of_find?_eq_some hy)
    rw [hy]
    obtain ⟨yp, yc⟩ := y
    simp_all

/-! ## メモリ上の列への書き込み -/

section Insert

variable {p z : Policy} {ps : List Policy}

theorem mem_insertPolicy_of_mem (h : z ∈ Store.insertPolicy p ps) : z = p ∨ z ∈ ps := by
  induction ps with
  | nil => simpa [Store.insertPolicy] using h
  | cons y ys ih =>
    unfold Store.insertPolicy at h
    split at h
    · simp only [List.mem_cons] at h ⊢
      tauto
    · split at h
      · simpa using h
      · rcases List.mem_cons.1 h with rfl | h
        · simp
        · rcases ih h with rfl | h <;> simp [h]

theorem pairwise_insertPolicy (hs : ps.Pairwise fun a b => bytesBefore a.pathPrefix b.pathPrefix) :
    (Store.insertPolicy p ps).Pairwise fun a b => bytesBefore a.pathPrefix b.pathPrefix := by
  induction ps with
  | nil => simp [Store.insertPolicy]
  | cons y ys ih =>
    rw [List.pairwise_cons] at hs
    unfold Store.insertPolicy
    split
    · -- 同じ接頭辞の項目を置き換える
      rename_i heq
      have heq : y.pathPrefix = p.pathPrefix := by simpa using heq
      exact List.pairwise_cons.2 ⟨fun z hz => heq ▸ hs.1 z hz, hs.2⟩
    · split
      · -- 前に置く
        rename_i hlt
        refine List.pairwise_cons.2 ⟨?_, List.pairwise_cons.2 hs⟩
        intro z hz
        rcases List.mem_cons.1 hz with rfl | hz
        · exact hlt
        · exact bytesBefore_trans hlt (hs.1 z hz)
      · -- 後ろへ進む: 前の項目は挿すものより前
        rename_i hne hlt
        have hyp : bytesBefore y.pathPrefix p.pathPrefix :=
          bytesBefore_of_not (fun he => hne (by simp [he])) (by simpa using hlt)
        refine List.pairwise_cons.2 ⟨?_, ih hs.2⟩
        intro z hz
        rcases mem_insertPolicy_of_mem hz with rfl | hz
        · exact hyp
        · exact hs.1 z hz

theorem mem_insertPolicy (hs : ps.Pairwise fun a b => bytesBefore a.pathPrefix b.pathPrefix) :
    z ∈ Store.insertPolicy p ps ↔ z = p ∨ z ∈ ps ∧ z.pathPrefix ≠ p.pathPrefix := by
  induction ps with
  | nil => simp [Store.insertPolicy]
  | cons y ys ih =>
    rw [List.pairwise_cons] at hs
    -- 列の後ろの項目は、どれも先頭の項目より大きな接頭辞を持つ
    have after : ∀ z ∈ ys, z.pathPrefix ≠ y.pathPrefix := fun z hz => (ne_of_bytesBefore (hs.1 z hz)).symm
    unfold Store.insertPolicy
    split
    · rename_i heq
      have heq : y.pathPrefix = p.pathPrefix := by simpa using heq
      simp only [List.mem_cons]
      constructor
      · rintro (rfl | hz)
        · exact .inl rfl
        · exact .inr ⟨.inr hz, heq ▸ after z hz⟩
      · rintro (rfl | ⟨rfl | hz, hne⟩)
        · exact .inl rfl
        · exact absurd heq hne
        · exact .inr hz
    · split
      · rename_i hlt
        have hbig : ∀ z ∈ y :: ys, z.pathPrefix ≠ p.pathPrefix := by
          intro z hz
          rcases List.mem_cons.1 hz with rfl | hz
          · exact (ne_of_bytesBefore hlt).symm
          · exact (ne_of_bytesBefore (bytesBefore_trans hlt (hs.1 z hz))).symm
        constructor
        · intro hz
          rcases List.mem_cons.1 hz with rfl | hz
          · exact .inl rfl
          · exact .inr ⟨hz, hbig z hz⟩
        · rintro (rfl | ⟨hz, -⟩)
          · exact List.mem_cons_self
          · exact List.mem_cons_of_mem _ hz
      · rename_i hne _
        have hne : y.pathPrefix ≠ p.pathPrefix := by simpa using hne
        simp only [List.mem_cons, ih hs.2]
        constructor
        · rintro (rfl | rfl | ⟨hz, hzp⟩)
          · exact .inr ⟨.inl rfl, hne⟩
          · exact .inl rfl
          · exact .inr ⟨.inr hz, hzp⟩
        · rintro (rfl | ⟨rfl | hz, hzp⟩)
          · exact .inr (.inl rfl)
          · exact .inl rfl
          · exact .inr (.inr ⟨hz, hzp⟩)

end Insert

/-! ## メモリ上の列は写像の一覧 -/

section Memory

variable {M : String → Option String} {ps : List Policy}

/-- メモリ上で方針を保存すると、写像のその接頭辞が置かれる。 -/
theorem Listed.insertPolicy (h : Listed M ps) (p : Policy) :
    Listed (Function.update M p.pathPrefix (some p.cacheControl)) (Store.insertPolicy p ps) where
  sorted := pairwise_insertPolicy h.sorted
  mem x := by
    rw [mem_insertPolicy h.sorted, h.mem]
    by_cases hx : x.pathPrefix = p.pathPrefix
    · obtain ⟨xp, xc⟩ := x
      obtain ⟨pp, pc⟩ := p
      simp only at hx
      subst hx
      simp [eq_comm]
    · have hxp : x ≠ p := fun h => hx (h ▸ rfl)
      simp [hx, hxp]

/-- メモリ上で消すと、写像から接頭辞が除かれる。 -/
theorem Listed.purge (h : Listed M ps) (q : String) :
    Listed (Function.update M q none) (ps.filter (·.pathPrefix != q)) where
  sorted := h.sorted.filter _
  mem x := by
    rw [List.mem_filter, h.mem]
    by_cases hx : x.pathPrefix = q <;> simp [hx]

end Memory

/-! ## 呼び出しと、写像の答え -/

/-- 方針の保管庫への呼び出し。 -/
inductive Call where
  | put (pathPrefix cacheControl : String)
  | get (pathPrefix : String)
  | all
  | purge (pathPrefix : String)

/-- 保管庫が呼び出しに答えるもの。 -/
inductive Reply where
  | put (r : Except StoreError Policy)
  | get (r : Except StoreError (Option Policy))
  | all (l : Listing)
  | purge (r : Except StoreError Unit)

/-- 接頭辞の有限の写像が呼び出しに答えるものと、その後の写像。 -/
inductive MapStep : (String → Option String) → Call → Reply → (String → Option String) → Prop
  /-- 正規形のない方針は拒まれ、写像はそのまま。 -/
  | putInvalid {M p t e} : canonicalize t = .error e →
      MapStep M (.put p t) (.put (.error (.invalid e))) M
  /-- それ以外は、その正規形を接頭辞に置いて返す。 -/
  | put {M p t v} : canonicalize t = .ok v →
      MapStep M (.put p t) (.put (.ok ⟨p, v⟩)) (Function.update M p (some v))
  /-- 接頭辞の値。あれば。 -/
  | get {M p} : MapStep M (.get p) (.get (.ok ((M p).map (⟨p, ·⟩)))) M
  /-- どの項目も一度ずつ、接頭辞のバイト順で。 -/
  | all {M ps} : Listed M ps → MapStep M .all (.all ⟨ps, none⟩) M
  /-- 接頭辞は、あってもなくても除かれる。 -/
  | purge {M p} : MapStep M (.purge p) (.purge (.ok ())) (Function.update M p none)

/-- 呼び出しへの順の答え。それぞれ、その前の呼び出しが残した写像が与える。 -/
inductive MapRun : (String → Option String) → List Call → List Reply → Prop
  | nil {M} : MapRun M [] []
  | cons {M M' c r cs rs} : MapStep M c r M' → MapRun M' cs rs → MapRun M (c :: cs) (r :: rs)

theorem MapStep.det {M M₁ M₂ : String → Option String} {c : Call} {r₁ r₂ : Reply}
    (h₁ : MapStep M c r₁ M₁) (h₂ : MapStep M c r₂ M₂) : r₁ = r₂ ∧ M₁ = M₂ := by
  cases h₁ with
  | putInvalid he => cases h₂ with
    | putInvalid he' => simp_all
    | put hv => simp_all
  | put hv => cases h₂ with
    | putInvalid he => simp_all
    | put hv' => simp_all
  | get => cases h₂; exact ⟨rfl, rfl⟩
  | all hl => cases h₂ with
    | all hl' => exact ⟨by rw [hl.unique hl'], rfl⟩
  | purge => cases h₂; exact ⟨rfl, rfl⟩

theorem MapRun.det {M : String → Option String} {cs : List Call} {rs₁ rs₂ : List Reply}
    (h₁ : MapRun M cs rs₁) (h₂ : MapRun M cs rs₂) : rs₁ = rs₂ := by
  induction h₁ generalizing rs₂ with
  | nil => cases h₂; rfl
  | cons hs _ ih =>
    cases h₂ with
    | cons hs' hrun' =>
      obtain ⟨rfl, rfl⟩ := hs.det hs'
      rw [ih hrun']

/-! ## メモリ上の保管庫 -/

/-- 呼び出しへの保管庫の答えと、その後の保管庫とファイル。 -/
def Store.serve (s : Store) (w : World) : Call → Outcome Reply
  | .put p t => let o := s.put w p t; ⟨o.store, o.world, .put o.answer⟩
  | .get p => let o := s.get w p; ⟨o.store, o.world, .get o.answer⟩
  | .all => let o := s.all w; ⟨o.store, o.world, .all o.answer⟩
  | .purge p => let o := s.purge w p; ⟨o.store, o.world, .purge o.answer⟩

/-- 順の呼び出しへの保管庫の答え。 -/
def Store.replies (s : Store) (w : World) : List Call → List Reply
  | [] => []
  | c :: cs => let o := s.serve w c; o.answer :: o.store.replies o.world cs

/-- メモリ上の保管庫への一つの呼び出し: 写像として答え、ファイルを保ち、その後の写像の一覧を
保つ。 -/
theorem serve_memory {M : String → Option String} {ps : List Policy} (h : Listed M ps)
    (w : World) (c : Call) :
    ∃ r M' ps', (Store.memory ps).serve w c = ⟨.memory ps', w, r⟩ ∧ MapStep M c r M' ∧
      Listed M' ps' := by
  cases c with
  | put p t =>
    cases hc : canonicalize t with
    | error e => exact ⟨_, M, ps, by simp [Store.serve, Store.put, hc], .putInvalid hc, h⟩
    | ok v => exact ⟨_, _, _, by simp [Store.serve, Store.put, hc], .put hc, h.insertPolicy ⟨p, v⟩⟩
  | get p => exact ⟨_, M, ps, by simp [Store.serve, Store.get, h.find?_eq p], .get, h⟩
  | all => exact ⟨_, M, ps, rfl, .all h, h⟩
  | purge p => exact ⟨_, _, _, rfl, .purge, h.purge p⟩

theorem mapRun_memory {M : String → Option String} {ps : List Policy} (h : Listed M ps)
    (w : World) (cs : List Call) : MapRun M cs ((Store.memory ps).replies w cs) := by
  induction cs generalizing M ps with
  | nil => exact .nil
  | cons c cs ih =>
    obtain ⟨r, M', ps', hserve, hstep, hl⟩ := serve_memory h w c
    simp only [Store.replies, hserve]
    exact .cons hstep (ih hl)

/-! ## 表の保管庫

表の保管庫はデータベースを文を走らせる関数 `run` としてしか見ない。SQLite について頼るのは、
`policies` 表 (`prefix TEXT PRIMARY KEY`) に対する四つの文の振る舞いだけ: `INSERT OR REPLACE` は
同じ主キーの行を置き換えるか行を足し、`WHERE prefix = ?` はちょうどその接頭辞の行を読み、
`ORDER BY prefix` は BINARY の照合 (表すバイトの順) で全部の行を一度ずつ読み、`DELETE` はその
接頭辞の行を除く。どの行にも、保管庫が書いた更新時刻が入っている。 -/

section Table

variable {σ : Type} {run : σ → String → List Value → Bool → σ × Except TableError QueryResult}

/-- 呼び出しへの表の保管庫の答えと、その後のデータベース。 -/
def Table.serve (run : σ → String → List Value → Bool → σ × Except TableError QueryResult)
    (db : σ) : Call → σ × Reply
  | .put p t => let (db, r) := Table.put run db p t; (db, .put r)
  | .get p => let (db, r) := Table.get run db p; (db, .get r)
  | .all => let (db, l) := Table.all run db; (db, .all l)
  | .purge p => let (db, r) := Table.purge run db p; (db, .purge r)

/-- 順の呼び出しへの表の保管庫の答え。 -/
def Table.replies (run : σ → String → List Value → Bool → σ × Except TableError QueryResult)
    (db : σ) : List Call → List Reply
  | [] => []
  | c :: cs => let (db, r) := Table.serve run db c; r :: Table.replies run db cs

/-- 一覧が読み戻すとおりの、保管庫が方針に書く行。 -/
def policyRow (x : Policy) : Array Value :=
  #[.text x.pathPrefix, .text x.cacheControl, .integer writeTime]

/-- 表の保管庫がデータベースに頼ること: `policies` 表への四つの文に SQLite のとおりに答える。
`holds M db` は、`db` の表が `M` の項目ごとに一行を、保管庫が書く更新時刻とともに持つこと。
接頭辞は表すバイトで比べる (BINARY の照合)。 -/
structure Sqlite (run : σ → String → List Value → Bool → σ × Except TableError QueryResult)
    (holds : (String → Option String) → σ → Prop) : Prop where
  /-- `INSERT OR REPLACE` は主キーの行を置き換えるか、一つ足す。 -/
  replace {db M} (p v : String) : holds M db →
    ∃ db' r, run db putText [.text p, .text v, .integer writeTime] true = (db', .ok r) ∧
      holds (Function.update M p (some v)) db'
  /-- `WHERE prefix = ?` はちょうどこの接頭辞の行を、あれば読む。 -/
  lookup {db M} (p : String) : holds M db →
    ∃ db' r, run db getText [.text p] true = (db', .ok r) ∧ holds M db' ∧
      r.rows = (M p).toList.map fun v => #[.text v, .integer writeTime]
  /-- `ORDER BY prefix` はどの行も一度ずつ、接頭辞のバイト順で読む。 -/
  scan {db M} : holds M db →
    ∃ db' r ps, run db allText [] false = (db', .ok r) ∧ holds M db' ∧ Listed M ps ∧
      r.rows = ps.map policyRow
  /-- `DELETE ... WHERE prefix = ?` は接頭辞の行を、あれば除く。 -/
  delete {db M} (p : String) : holds M db →
    ∃ db' r, run db purgeText [.text p] true = (db', .ok r) ∧
      holds (Function.update M p none) db'

theorem scanRow_value (r : QueryResult) (v : String) (t : Int) :
    scanRow r #[.text v, .integer t] [0] [1] = .ok [v] := rfl

theorem scanAll_policyRow (r : QueryResult) (ps : List Policy) :
    Table.scanAll r (ps.map policyRow) = (ps, none) := by
  induction ps with
  | nil => rfl
  | cons x xs ih =>
    have hrow : scanRow r (policyRow x) [0, 1] [2] = .ok [x.pathPrefix, x.cacheControl] := rfl
    simp [Table.scanAll, hrow, ih]

variable {holds : (String → Option String) → σ → Prop} {db : σ} {M : String → Option String}

theorem Table.put_invalid {p t : String} {e : Invalid} (hc : canonicalize t = .error e) :
    Table.put run db p t = (db, .error (.invalid e)) := by
  simp [Table.put, hc]

theorem Table.put_spec (hs : Sqlite run holds) (h : holds M db) {p t v : String}
    (hc : canonicalize t = .ok v) :
    ∃ db', Table.put run db p t = (db', .ok ⟨p, v⟩) ∧ holds (Function.update M p (some v)) db' := by
  obtain ⟨db', r, hrun, h'⟩ := hs.replace p v h
  exact ⟨db', by simp [Table.put, hc, hrun], h'⟩

theorem Table.get_spec (hs : Sqlite run holds) (h : holds M db) (p : String) :
    ∃ db', Table.get run db p = (db', .ok ((M p).map (⟨p, ·⟩))) ∧ holds M db' := by
  obtain ⟨db', r, hrun, h', hrows⟩ := hs.lookup p h
  refine ⟨db', ?_, h'⟩
  cases hp : M p with
  | none => simp [Table.get, hrun, hrows, hp]
  | some v => simp [Table.get, hrun, hrows, hp, scanRow_value]

theorem Table.all_spec (hs : Sqlite run holds) (h : holds M db) :
    ∃ db' ps, Table.all run db = (db', ⟨ps, none⟩) ∧ holds M db' ∧ Listed M ps := by
  obtain ⟨db', r, ps, hrun, h', hl, hrows⟩ := hs.scan h
  exact ⟨db', ps, by simp [Table.all, hrun, hrows, scanAll_policyRow], h', hl⟩

theorem Table.purge_spec (hs : Sqlite run holds) (h : holds M db) (p : String) :
    ∃ db', Table.purge run db p = (db', .ok ()) ∧ holds (Function.update M p none) db' := by
  obtain ⟨db', r, hrun, h'⟩ := hs.delete p h
  exact ⟨db', by simp [Table.purge, hrun, Except.map, Except.mapError], h'⟩

theorem serve_table (hs : Sqlite run holds) (h : holds M db) (c : Call) :
    ∃ db' r M', Table.serve run db c = (db', r) ∧ MapStep M c r M' ∧ holds M' db' := by
  cases c with
  | put p t =>
    cases hc : canonicalize t with
    | error e => exact ⟨db, _, M, by simp [Table.serve, Table.put_invalid hc], .putInvalid hc, h⟩
    | ok v =>
      obtain ⟨db', hput, h'⟩ := Table.put_spec hs h (p := p) hc
      exact ⟨db', _, _, by simp [Table.serve, hput], .put hc, h'⟩
  | get p =>
    obtain ⟨db', hget, h'⟩ := Table.get_spec hs h p
    exact ⟨db', _, M, by simp [Table.serve, hget], .get, h'⟩
  | all =>
    obtain ⟨db', ps, hall, h', hl⟩ := Table.all_spec hs h
    exact ⟨db', _, M, by simp [Table.serve, hall], .all hl, h'⟩
  | purge p =>
    obtain ⟨db', hpurge, h'⟩ := Table.purge_spec hs h p
    exact ⟨db', _, _, by simp [Table.serve, hpurge], .purge, h'⟩

theorem mapRun_table (hs : Sqlite run holds) (h : holds M db) (cs : List Call) :
    MapRun M cs (Table.replies run db cs) := by
  induction cs generalizing db M with
  | nil => exact .nil
  | cons c cs ih =>
    obtain ⟨db', r, M', hserve, hstep, h'⟩ := serve_table hs h c
    simp only [Table.replies, hserve]
    exact .cons hstep (ih h')

end Table

theorem replies_table (c : Connection) (w : World) (cs : List Call) :
    (Store.table c).replies w cs = Table.replies runConnection (c, w) cs := by
  induction cs generalizing c w with
  | nil => rfl
  | cons call cs ih =>
    cases call <;> simp [Store.replies, Store.serve, Table.replies, Table.serve, Store.put,
      Store.get, Store.all, Store.purge, Outcome.ofTable, ih]

/-! ## 二つの保管庫は同じ写像を実装する -/

/-- 方針の二つの保管庫はどちらも、接頭辞から正規形の値への有限の写像を詳細化する。メモリ上の
保管庫は、空から、どの呼び出しの列にも写像と同じく答える。表の保管庫も、その四つの文を SQLite
と同じく走らせるどのデータベースの上でも、空の表から同じ。写像の答えは一通りなので、二つは
どの列にも同じく答える。接続の保管庫は、接続の走り手の上の表の保管庫。 -/
theorem stores_refine_map :
    (∀ (w : World) (cs : List Call), MapRun (fun _ => none) cs ((Store.memory []).replies w cs)) ∧
    (∀ {σ : Type} (run : σ → String → List Value → Bool → σ × Except TableError QueryResult)
        (holds : (String → Option String) → σ → Prop) (db : σ),
        Sqlite run holds → holds (fun _ => none) db → ∀ cs : List Call,
          MapRun (fun _ => none) cs (Table.replies run db cs) ∧
            ∀ w : World, (Store.memory []).replies w cs = Table.replies run db cs) ∧
    (∀ (c : Connection) (w : World) (cs : List Call),
        (Store.table c).replies w cs = Table.replies runConnection (c, w) cs) := by
  refine ⟨fun w cs => mapRun_memory Listed.nil w cs, ?_, replies_table⟩
  intro σ run holds db hs hempty cs
  have htable := mapRun_table hs hempty cs
  exact ⟨htable, fun w => (mapRun_memory Listed.nil w cs).det htable⟩

/-- 方針の並べたリストとして保つ表: 保管庫の四つの文を SQLite と同じく走らせ、
ほかはすべて拒む。 -/
def listTable (ps : List Policy) (text : String) (args : List Value) (_ : Bool) :
    List Policy × Except TableError QueryResult :=
  match args with
  | [.text p, .text v, .integer _] =>
    if text = putText then (Store.insertPolicy ⟨p, v⟩ ps, .ok ⟨#[], []⟩)
    else (ps, .error (.sql ⟨1, text⟩))
  | [.text p] =>
    if text = getText then
      (ps, .ok ⟨#[], ((ps.find? (·.pathPrefix == p)).map
        fun x => #[.text x.cacheControl, .integer writeTime]).toList⟩)
    else if text = purgeText then (ps.filter (·.pathPrefix != p), .ok ⟨#[], []⟩)
    else (ps, .error (.sql ⟨1, text⟩))
  | [] => if text = allText then (ps, .ok ⟨#[], ps.map policyRow⟩) else (ps, .error (.sql ⟨1, text⟩))
  | _ => (ps, .error (.sql ⟨1, text⟩))

theorem listTable_sqlite : Sqlite listTable Listed where
  replace := fun {ps _} p v h =>
    ⟨Store.insertPolicy ⟨p, v⟩ ps, ⟨#[], []⟩, by simp [listTable], h.insertPolicy ⟨p, v⟩⟩
  lookup := fun {ps M} p h => by
    refine ⟨ps, ⟨#[], ((ps.find? (·.pathPrefix == p)).map
      fun x => #[.text x.cacheControl, .integer writeTime]).toList⟩, by simp [listTable], h, ?_⟩
    rw [h.find?_eq p]
    cases M p <;> rfl
  scan := fun {ps _} h => ⟨ps, ⟨#[], ps.map policyRow⟩, ps, by simp [listTable], h, h, rfl⟩
  delete := fun {ps _} p h =>
    ⟨ps.filter (·.pathPrefix != p), ⟨#[], []⟩,
      by simp [listTable, show purgeText ≠ getText by decide], h.purge p⟩

/-- 二つの保管庫 (表のものはリストの上) は、保存、拒まれる保存、読み出し、ない接頭辞の消去、
一覧に同じく答える。 -/
theorem stores_agree_on_list_table :
    Sqlite listTable Listed ∧ Listed (fun _ => none) [] ∧
      (Store.memory []).replies World.empty
          [.put "/b" "Max-Age=60", .put "/a" "max-age=never", .get "/b", .purge "/x", .all] =
        Table.replies listTable []
          [.put "/b" "Max-Age=60", .put "/a" "max-age=never", .get "/b", .purge "/x", .all] :=
  ⟨listTable_sqlite, Listed.nil,
    (stores_refine_map.2.1 listTable Listed [] listTable_sqlite Listed.nil
      [.put "/b" "Max-Age=60", .put "/a" "max-age=never", .get "/b", .purge "/x", .all]).2
      World.empty⟩

end HttpCaching.Policy
