import HttpCaching.Middleware.Handler
import HttpCaching.Proofs.Field.Repeated
/-!
# 結びついたディレクティブの読み直し

ハンドラーに応答のディレクティブを渡すとき、フィールドの値を `", "` でつないだものが
ディレクティブの値と同じなら読み直さない (`Exchange.refresh`)。読み直すのと同じ結果になるのは、
テキストが同じなら読んだ中身も同じときに限る。

ディレクティブは、要求を受けたところから、フィールドの行から読んだのでない対に `reset` する
操作を除くどんな手順の後でも、自分の値から読み直せる形 (`Directives.Readable`) を保つ
(`Handling.Steady.readable`)。そのうえでフィールドの最後以外の行が引用符の外で終わり、
ディレクティブの名前もそうなら、読み直さずに渡したディレクティブは、いつも読み直したものと
役割・`provided`・`Directive.reread` のとおりの項目で一致し、読み直したものの項目はフィールドの
行を読んだもの。行が引用符の中で終わると、テキストが同じでも中身は違いうる。

主な主張は `Handling.Steady.responseDirectives_follow_field`。
-/
namespace HttpCaching

open HttpCaching.Field

namespace Argument

theorem reread_reread (cls : ArgumentClass) (a : Argument) :
    (a.reread cls).reread cls = a.reread cls := by
  cases a with
  | flag => rfl
  | int n => cases h : cls.readsSeconds <;> simp [reread, h]
  | token s =>
    cases h : cls.readsSeconds
    · simp [reread, h]
    · cases hs : readDeltaSeconds? s <;> simp [reread, h, hs]

end Argument

theorem Directive.reread_reread (d : Directive) : d.reread.reread = d.reread := by
  simp [Directive.reread, Argument.reread_reread]

namespace Directives

variable {d : Directives}

/-- 自分のフィールドの値から読み戻せるディレクティブ: 項目ごとに読み戻せる表 (`Entries.Rereadable`)
で、一度も与えられていない間はディレクティブがない。 -/
structure Readable (d : Directives) : Prop where
  rereadable : d.entries.Rereadable
  empty_of_unprovided : d.provided = false → d.entries = Entries.empty

theorem toList_reset_read (d : Directives) (lines : List String) :
    (d.reset (read lines)).toList = read lines :=
  toList_ofList_read d.role lines

theorem readable_empty (role : Role) : (empty role).Readable :=
  ⟨Entries.Rereadable.empty, fun _ => rfl⟩

theorem readable_reset_read (d : Directives) (lines : List String) :
    (d.reset (read lines)).Readable := by
  refine ⟨rereadable_ofList_read d.role lines, fun hp => ?_⟩
  simp only [reset, Bool.or_eq_false_iff, decide_eq_false_iff_not, Nat.not_lt,
    Nat.le_zero] at hp
  obtain ⟨-, hsize⟩ := hp
  exact (keyed_entriesOf _).wf.eq_empty hsize

end Directives

/-- ディレクティブを読み戻せるまま保つ操作: どのフィールドの行も与えない組への reset
以外のどれでも。 -/
def Call.KeepsReadable : Call → Prop
  | .reset ps => ∃ lines, ps = Field.read lines
  | _ => True

namespace Directives

variable {d : Directives}

theorem Readable.perform (hd : d.Readable) {c : Call} (hc : c.KeepsReadable) :
    (d.perform c).after.Readable := by
  rcases perform_cases d c with ⟨he, -⟩ | ⟨e, he, hw, -⟩ | ⟨ps, rfl, he, -⟩
  · rw [he]
    exact hd
  · -- 成功した書き込み: `provided` が立つので空でなくてよい
    refine ⟨rereadable_perform hd.rereadable c ?_, fun hp => ?_⟩
    · rintro ps rfl
      simp [Call.isWrite] at hw
    · rw [he] at hp
      simp [changed] at hp
  · obtain ⟨lines, rfl⟩ := hc
    rw [he]
    exact readable_reset_read d lines

/-- 読み直せる形のディレクティブは、最後以外の行が引用符の外で終わる行をつないだものが自分の値と
同じなら、どの名前も引用符の外で終わる限り、それらの行を読むと自分を `reread` したものになる。 -/
theorem Readable.read_eq (hd : d.Readable)
    (hq : ∀ n ∈ d.names, Scan.start.run n.toList = Scan.start) {lines : List String}
    (hj : ∀ x ∈ lines.dropLast, Scan.start.run x.toList = Scan.start)
    (he : ", ".intercalate lines = d.render) :
    read lines = d.toList.map Directive.reread := by
  rw [← read_intercalate lines hj, he]
  exact Entries.read_render hd.rereadable.nodup hd.rereadable.each fun x hx =>
    hq x.name (by rw [names, Entries.names_eq]; exact List.mem_map_of_mem hx)

/-- 同じ条件で行から読み直しても、`provided` は変わらず、項目は `reread` のとおりにしか
変わらない。 -/
theorem Readable.reset_read_of_render (hd : d.Readable)
    (hq : ∀ n ∈ d.names, Scan.start.run n.toList = Scan.start) {lines : List String}
    (hj : ∀ x ∈ lines.dropLast, Scan.start.run x.toList = Scan.start)
    (he : ", ".intercalate lines = d.render) :
    (d.reset (read lines)).provided = d.provided ∧
      (d.reset (read lines)).toList.map Directive.reread = d.toList.map Directive.reread := by
  have hread := hd.read_eq hq hj he
  constructor
  · cases hp : d.provided with
    | true => simp [reset, hp]
    | false =>
      -- まだ何も与えられていなければ表は空で、行を読んでも何も出てこない
      have hnil : read lines = [] := by
        rw [hread, toList, hd.empty_of_unprovided hp]
        rfl
      have hsize : (entriesOf (read lines)).size = 0 := by
        rw [Entries.size_eq]
        change (d.reset (read lines)).toList.length = 0
        rw [toList_reset_read, hnil]
        rfl
      simp [reset, hp, hsize]
  · rw [toList_reset_read, hread, List.map_map]
    simp [Function.comp_def, Directive.reread_reread]

end Directives

namespace Middleware

namespace Exchange

variable {x : Exchange}

@[simp]
theorem record_directives (level : Log.Level) (fields : List (String × Log.Value))
    (message : String) : (x.record level fields message).directives = x.directives := rfl

theorem refresh_directives (x : Exchange) :
    x.refresh.directives =
      if ", ".intercalate (x.header.values fieldName) = x.directives.render then x.directives
      else x.directives.reset (read (x.header.values fieldName)) := by
  unfold refresh
  split <;> simp_all

theorem readable_refresh (hx : x.directives.Readable) : x.refresh.directives.Readable := by
  rw [refresh_directives]
  split
  · exact hx
  · exact Directives.readable_reset_read _ _

@[simp]
theorem send_directives (status : Int) : (x.send status).1.directives = x.directives := by
  unfold send
  split
  · rfl
  · split <;> rfl

theorem readable_applyRules (hx : x.directives.Readable) (rules : List Rules.Rule) (status : Int) :
    (x.applyRules rules status).directives.Readable := by
  unfold applyRules
  extract_lets x1 before w x2 x3 x4 applied x5
  have h1 : x1.directives.Readable := readable_refresh hx
  have h3 : x3.directives = x1.directives := by
    simp only [x3, x2]
    split <;> rfl
  have h4 : x4.directives.Readable := readable_refresh (h3 ▸ h1)
  have h5 : x5.directives = x4.directives := by
    simp only [x5]
    split <;> rfl
  simpa [h5] using h4

theorem readable_writeHeader (hx : x.directives.Readable) (rules : List Rules.Rule) (status : Int) :
    (x.writeHeader rules status).1.directives.Readable := by
  unfold writeHeader
  rw [send_directives]
  split
  · exact hx
  · exact readable_applyRules hx rules status

theorem readable_write (hx : x.directives.Readable) (rules : List Rules.Rule) (bytes : String) :
    (x.write rules bytes).1.directives.Readable := by
  unfold write
  have hw : (if x.rulesApplied then (x, none) else x.writeHeader rules 200).1.directives.Readable := by
    split
    · exact hx
    · exact readable_writeHeader hx rules 200
  generalize (if x.rulesApplied then (x, none) else x.writeHeader rules 200) = p at hw
  obtain ⟨y, stop⟩ := p
  cases stop <;> exact hw

theorem readable_fail (hx : x.directives.Readable) (rules : List Rules.Rule) (text : String)
    (status : Int) : (x.fail rules text status).1.directives.Readable := by
  -- 型の欄を書き足しても、ディレクティブは元のまま
  have hw := readable_writeHeader (x := { x with
    header := ((x.header.erase "Content-Length").set "Content-Type" "text/plain; charset=utf-8").set
      "X-Content-Type-Options" "nosniff" }) hx rules status
  cases hws : Exchange.writeHeader rules { x with
    header := ((x.header.erase "Content-Length").set "Content-Type" "text/plain; charset=utf-8").set
      "X-Content-Type-Options" "nosniff" } status with
  | mk y stop =>
    rw [hws] at hw
    cases stop with
    | some i => simpa [fail, hws] using hw
    | none => simpa [fail, hws] using readable_write hw rules (text ++ "\n")

theorem readable_perform (hx : x.directives.Readable) {c : Call} (hc : c.KeepsReadable) :
    (x.perform c).1.directives.Readable := by
  have hd := hx.perform hc
  dsimp only [perform]
  split <;> simpa [sync] using hd

end Exchange

/-- その後も結びついたディレクティブが自分の値から読み戻せるハンドラーの一歩:
どのフィールドの行も与えない組に reset する操作以外のどの一歩でも。 -/
def Step.KeepsReadable : Step → Prop
  | .call _ (some c) => c.KeepsReadable
  | _ => True

namespace Handling

variable {rules : List Rules.Rule}

theorem readable_step {h : Handling} (hx : h.exchange.directives.Readable) (s : Step)
    (hs : s.KeepsReadable) : (h.step rules s).1.exchange.directives.Readable := by
  cases s with
  | responseDirectives => exact Exchange.readable_refresh hx
  | requestDirectives | setHeader | addHeader | deleteHeader => exact hx
  | writeHeader status => exact Exchange.readable_writeHeader hx rules status
  | write bytes => exact Exchange.readable_write hx rules bytes
  | flush => simpa [step, Exchange.flush] using hx
  | fail text status => exact Exchange.readable_fail hx rules text status
  | call name c =>
    simp only [step]
    split
    · exact hx
    · exact hx
    · cases c with
      | none => exact hx
      | some c => exact Exchange.readable_perform hx hs

/-- 要求を受けたところから、読み直せる形を保つ手順を重ねたハンドラーの状態。 -/
inductive Steady (rules : List Rules.Rule) : Handling → Prop
  | start (m : Layer) (req : Http.Request) : Steady rules ⟨(m.begin req).2, .nothing, false⟩
  | step {h : Handling} (s : Step) : s.KeepsReadable → Steady rules h →
      Steady rules (h.step rules s).1

theorem begin_directives (m : Layer) (req : Http.Request) :
    (m.begin req).2.directives = Directives.empty .response := by
  dsimp only [Layer.begin]
  split <;> split <;> rfl

theorem Steady.readable {h : Handling} (hs : Steady rules h) : h.exchange.directives.Readable := by
  induction hs with
  | start m req =>
    rw [begin_directives]
    exact Directives.readable_empty _
  | step s hk _ ih => exact readable_step ih s hk

/-- ハンドラーが応答のディレクティブを求めると、フィールドの最後以外の行とディレクティブの名前が
引用符の外で終わる限り、読み直しを省いても、いつも読み直したものと役割・`provided`・
`Directive.reread` のとおりの項目で一致し、読み直したものの項目はフィールドの行を読んだもの。 -/
theorem Steady.responseDirectives_follow_field {h : Handling} (hs : Steady rules h)
    (hj : ∀ x ∈ (h.exchange.header.values fieldName).dropLast,
      Scan.start.run x.toList = Scan.start)
    (hq : ∀ n ∈ h.exchange.directives.names, Scan.start.run n.toList = Scan.start) :
    let d := (h.step rules .responseDirectives).1.exchange.directives
    let fresh := h.exchange.directives.reset (read (h.exchange.header.values fieldName))
    d.role = fresh.role ∧ d.provided = fresh.provided ∧
      d.toList.map Directive.reread = fresh.toList.map Directive.reread ∧
      fresh.toList = read (h.exchange.header.values fieldName) := by
  intro d fresh
  have hd : d = h.exchange.refresh.directives := rfl
  rw [Exchange.refresh_directives] at hd
  have hfresh : fresh.toList = read (h.exchange.header.values fieldName) :=
    Directives.toList_reset_read _ _
  split at hd
  case isFalse => exact ⟨by rw [hd], by rw [hd], by rw [hd], hfresh⟩
  case isTrue he =>
    -- 読み直さなかった: 今のディレクティブは行から読み直せる形で、値が行をつないだものと同じ
    obtain ⟨hp, hr⟩ := hs.readable.reset_read_of_render hq hj he
    exact ⟨by rw [hd]; rfl, by rw [hd, hp], by rw [hd, hr], hfresh⟩

/-- 規則のない層で、ハンドラーがフィールドに `max-age=5` を書き、応答のディレクティブを求めた
ところ: ディレクティブはその行から読んだもので、次に求めると値が行と同じなので読み直さずに
渡り、行を読み直したものと一致する。 -/
theorem responseDirectives_after_field_write :
    let h := ((Handling.step [] ⟨(Layer.begin ⟨[], .disabled⟩ default).2, .nothing, false⟩
      (.setHeader "Cache-Control" "max-age=5")).1.step [] .responseDirectives).1
    Steady [] h ∧
      (∀ x ∈ (h.exchange.header.values fieldName).dropLast, Scan.start.run x.toList = Scan.start) ∧
      (∀ n ∈ h.exchange.directives.names, Scan.start.run n.toList = Scan.start) ∧
      let d := (h.step [] .responseDirectives).1.exchange.directives
      let fresh := h.exchange.directives.reset (read (h.exchange.header.values fieldName))
      d.role = fresh.role ∧ d.provided = fresh.provided ∧
        d.toList.map Directive.reread = fresh.toList.map Directive.reread ∧
        fresh.toList = read (h.exchange.header.values fieldName) := by
  intro h
  have hs : Steady [] h := .step _ trivial (.step _ trivial (.start ⟨[], .disabled⟩ default))
  have hj : ∀ x ∈ (h.exchange.header.values fieldName).dropLast,
      Scan.start.run x.toList = Scan.start := by
    decide +kernel
  have hq : ∀ n ∈ h.exchange.directives.names, Scan.start.run n.toList = Scan.start := by
    decide +kernel
  exact ⟨hs, hj, hq, Steady.responseDirectives_follow_field hs hj hq⟩

/-- 最後でない行が引用符の中で終わると、つないだテキストが値と同じでも中身は違う: `x` に
`a, b` を書いた後、フィールドを `x="a` と `b"` の二行にすると、読み直さずに渡るディレクティブは
`x` 一つだが、行を読むと二つになる。 -/
example :
    let h := [.responseDirectives, .call "set" (some (.set "x" (.text "a, b"))),
        .deleteHeader "Cache-Control", .addHeader "Cache-Control" "x=\"a",
        .addHeader "Cache-Control" "b\""].foldl (fun h s => (Handling.step [] h s).1)
      (⟨(Layer.begin ⟨[], .disabled⟩ default).2, .nothing, false⟩ : Handling)
    (h.step [] .responseDirectives).1.exchange.directives.names = ["x"] ∧
      (read (h.exchange.header.values fieldName)).map (·.name) = ["x", "b\""] := by
  decide +kernel

end Handling

end Middleware

end HttpCaching
