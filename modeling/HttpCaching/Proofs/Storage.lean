import HttpCaching.Storage
import HttpCaching.Proofs.Directive.Typed
/-!
# 保存してよい応答

RFC 9111 §3 が応答の保存を許す条件を、要求と応答の Cache-Control から読んだディレクティブの
有無と、要求の Authorization・応答の Expires の値で述べたもの (`Storage.MayStore`)。
delta-seconds の s-maxage と max-age だけは、型付きの読み取りが値を返すとき (使える数のとき)
に限って数える。

型付きの読み取りのうち存在だけを見るものは、名前で引いて有無を見るのと同じ
(`Directives.flag_eq_has`)。判断の関数は条件を一つずつ順に確かめる `if` の連なりで、
「保存してはならない」が偽になるのは、どの条件にも引っかからず、明示的に保存してよいと
言えるときに限る。

主な主張は `Storage.verdict_iff_mayStore`: 欠けた部分があれば、ヘッダー・状態コード・要求・
要求の方法の順に最初に欠けたものを挙げて「保存してはならない」と答え、そろっていれば欠けた
ものなしに答え、その答えが偽であることと `MayStore` とが同値。
-/
namespace HttpCaching

namespace Directives

theorem flag_eq_has (d : Directives) {n : String} (hn : Directive.normalizeName n = n) :
    d.flag n = d.has n := by
  rw [flag, has, get?, hn, Entries.contains_eq_isSome]

theorem isSome_fields? (d : Directives) {n : String} (hn : Directive.normalizeName n = n) :
    (d.fields? n).isSome = d.has n := by
  rw [fields?, Option.isSome_map, has, get?, hn]

end Directives

namespace Storage

open Http

/-- RFC 9111 §3 の、キャッシュが応答を保存してよい条件。要求と応答のディレクティブ、要求の
Authorization の値、応答の Expires の値から読む。 -/
@[mk_iff]
structure MayStore (method : String) (status : Int) (req res : Directives)
    (authorization expires : String) (shared : Bool) : Prop where
  /-- キャッシュがそのメソッドを理解する。 -/
  method : method = "GET" ∨ method = "HEAD"
  /-- 状態コードが最終のもの。 -/
  final : 200 ≤ status ∧ status ≤ 599
  /-- キャッシュが理解しなければならない状態コードは 200。 -/
  understood : (status = 206 ∨ status = 304 ∨ res.has "must-understand" = true) → status = 200
  /-- 応答の `no-store` は、`must-understand` がないときだけ数える。 -/
  noStore : res.has "no-store" = true → res.has "must-understand" = true
  requestNoStore : req.has "no-store" = false
  /-- 共有のキャッシュは private の応答を保存しない。 -/
  notPrivate : shared = true → res.has "private" = false
  /-- 共有のキャッシュは、応答が許すときだけ、認可のある要求への答えを保存する (RFC 9111 §3.5)。 -/
  authorized : shared = true → authorization ≠ "" →
    res.has "must-revalidate" = true ∨ res.has "public" = true ∨ res.sMaxAge?.isSome = true
  /-- 応答が明示的にキャッシュできる。 -/
  explicit : res.has "public" = true ∨ (res.has "private" = true ∧ shared = false) ∨
    expires ≠ "" ∨ res.maxAge?.isSome = true ∨ (shared = true ∧ res.sMaxAge?.isSome = true) ∨
    status ∈ [200, 203, 204, 206, 300, 301, 308, 404, 405, 410, 414, 501]

/-- 判断が読む存在だけのディレクティブは、正規の形で綴ってある。 -/
theorem normal_names :
    ∀ n ∈ ["no-store", "must-understand", "private", "public", "must-revalidate"],
      Directive.normalizeName n = n := by
  decide +kernel

theorem heuristicallyCacheable_iff (status : Int) :
    heuristicallyCacheable status = true ↔
      status ∈ [200, 203, 204, 206, 300, 301, 308, 404, 405, 410, 414, 501] := by
  simp [heuristicallyCacheable]

/-- 判断が偽になるのは、どの条件にも引っかからず、明示的に保存してよいと言えるときに限る。 -/
theorem mustNotStoreWith_eq_false_iff (method : String) (status : Int) (reqHeader resHeader : Header)
    (shared : Bool) :
    mustNotStoreWith method status reqHeader resHeader shared = false ↔
      MayStore method status (requestDirectives reqHeader) (responseDirectives resHeader)
        (reqHeader.get "Authorization") (resHeader.get "Expires") shared := by
  have hn := normal_names
  simp only [List.mem_cons, List.not_mem_nil, or_false, forall_eq_or_imp, forall_eq] at hn
  obtain ⟨hns, hmu, hpr, hpu, hmr⟩ := hn
  simp only [mustNotStoreWith, explicitlyCacheable, Bool.ite_eq_false_distrib, Bool.true_eq_false,
    if_false_left, Directives.noStore, Directives.mustUnderstand, Directives.isPublic,
    Directives.mustRevalidate, Directives.privateFields?, Directives.flag_eq_has _ hns,
    Directives.flag_eq_has _ hmu, Directives.flag_eq_has _ hpu, Directives.flag_eq_has _ hmr,
    Directives.isSome_fields? _ hpr]
  -- 判断の `if` の連なりは条件の連言に開けた。`MayStore` の欄と一つずつ対応させる
  rw [mayStore_iff]
  refine and_congr ?knownMethod (and_congr ?final (and_congr ?understood (and_congr ?noStore
    (and_congr ?requestNoStore (and_congr ?notPrivate (and_congr ?authorized ?explicit))))))
  case knownMethod => simp only [Bool.and_eq_true, bne_iff_ne, ne_eq, not_and, not_not]; tauto
  case final => simp
  case understood => simp [or_assoc]
  case noStore => simp
  case requestNoStore => simp
  case notPrivate => simp
  case authorized => simp [Option.isSome_iff_ne_none]; grind
  case explicit =>
    rw [← heuristicallyCacheable_iff]
    simp [Option.isSome_iff_ne_none]; grind

/-! ## 欠けた部分と答え -/

variable (shared : Bool)

theorem verdict_of_complete {r : Response} {h : Header} {req : Request} (hh : r.header = some h)
    (hs : r.status ≠ 0) (hr : r.request = some req) (hm : req.method ≠ "") :
    verdict r shared = (mustNotStoreWith req.method r.status req.header h shared, none) := by
  simp [verdict, hh, hs, hr, hm]

/-- 欠けた部分があれば、ヘッダー・状態コード・要求・要求の方法の順に最初に欠けたものを挙げて
「保存してはならない」と答える。そろっていれば欠けたものなしに答え、その答えが偽であることと
`MayStore` とが同値。 -/
theorem verdict_iff_mayStore (r : Response) :
    (r.header = none → verdict r shared = (true, some .header)) ∧
    (∀ h, r.header = some h → r.status = 0 → verdict r shared = (true, some .status)) ∧
    (∀ h, r.header = some h → r.status ≠ 0 → r.request = none →
      verdict r shared = (true, some .request)) ∧
    (∀ h req, r.header = some h → r.status ≠ 0 → r.request = some req → req.method = "" →
      verdict r shared = (true, some .method)) ∧
    ∀ h req, r.header = some h → r.status ≠ 0 → r.request = some req → req.method ≠ "" →
      ∃ b, verdict r shared = (b, none) ∧
        (b = false ↔ MayStore req.method r.status (requestDirectives req.header)
          (responseDirectives h) (req.header.get "Authorization") (h.get "Expires") shared) := by
  refine ⟨fun hh => ?header, fun h hh hs => ?status, fun h hh hs hr => ?request,
    fun h req hh hs hr hm => ?method, fun h req hh hs hr hm => ?complete⟩
  case header => simp [verdict, hh]
  case status => simp [verdict, hh, hs]
  case request => simp [verdict, hh, hs, hr]
  case method => simp [verdict, hh, hs, hr, hm]
  case complete =>
    exact ⟨_, verdict_of_complete shared hh hs hr hm, mustNotStoreWith_eq_false_iff _ _ _ _ _⟩

end Storage

end HttpCaching
