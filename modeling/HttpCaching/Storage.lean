import HttpCaching.Http.Message
import HttpCaching.Field.Read
import HttpCaching.Directive.Directives
/-!
# 保存してはならない応答 (RFC 9111 §3)

キャッシュは次のどれかに当たる応答を保存してはならない: 要求方法が GET と HEAD 以外、
状態コードが最終のもの (200–599) でない、206・304 または must-understand があって状態コードを
理解できない (200 以外)、no-store があって must-understand がない、要求に no-store がある、
共有キャッシュで private がある、共有キャッシュで Authorization 付きの要求に対し
must-revalidate・public・s-maxage のどれもない、明示的に保存してよいと言えない。
-/
namespace HttpCaching.Storage

open Http

/-- 問いに答えられないわけ: 応答の部分が欠けている。 -/
inductive Missing where
  | header
  | status
  | request
  | method
  deriving DecidableEq, Repr

/-- 欠けた部分の文。 -/
def Missing.message : Missing → String
  | .header => "response headers empty"
  | .status => "response status code empty"
  | .request => "response request object empty"
  | .method => "response request method empty"

/-- 明示の新しさがなくてもキャッシュが保存してよい状態コード (RFC 9110 §15.1)。 -/
def heuristicallyCacheable (status : Int) : Bool :=
  [200, 203, 204, 206, 300, 301, 308, 404, 405, 410, 414, 501].contains status

/-- ヘッダーの応答のディレクティブ。 -/
def responseDirectives (h : Header) : Directives :=
  Directives.ofList .response (Field.read (h.values "Cache-Control"))

/-- ヘッダーの要求のディレクティブ。 -/
def requestDirectives (h : Header) : Directives :=
  Directives.ofList .request (Field.read (h.values "Cache-Control"))

/-- 応答が保存してよいと言っている (RFC 9111 §3、最後の項目)。 -/
def explicitlyCacheable (status : Int) (h : Header) (res : Directives) (shared : Bool) : Bool :=
  res.isPublic || (res.privateFields?.isSome && !shared) || !(h.get "Expires").isEmpty ||
    res.maxAge?.isSome || (shared && res.sMaxAge?.isSome) || heuristicallyCacheable status

/-- 両方のヘッダーから、要求への応答を保存してはならないかどうか。 -/
def mustNotStoreWith (method : String) (status : Int) (reqHeader resHeader : Header)
    (shared : Bool) : Bool :=
  let req := requestDirectives reqHeader
  let res := responseDirectives resHeader
  if method != "GET" && method != "HEAD" then true
  else if !(200 ≤ status && status ≤ 599) then true
  else if (status == 206 || status == 304 || res.mustUnderstand) && status != 200 then true
  else if res.noStore && !res.mustUnderstand then true
  else if req.noStore then true
  else if shared && res.privateFields?.isSome then true
  else if shared && !(reqHeader.get "Authorization").isEmpty &&
      !(res.mustRevalidate || res.isPublic || res.sMaxAge?.isSome) then true
  else !explicitlyCacheable status resHeader res shared

/-- 応答を保存してはならないかどうかと、答えに欠けた部分。ヘッダー、状態、要求、方法の順に確かめる:
どれかを欠く応答は保存してはならない。 -/
def verdict (r : Response) (shared : Bool) : Bool × Option Missing :=
  match r.header with
  | none => (true, some .header)
  | some h =>
    if r.status == 0 then (true, some .status)
    else match r.request with
      | none => (true, some .request)
      | some req =>
        if req.method.isEmpty then (true, some .method)
        else (mustNotStoreWith req.method r.status req.header h shared, none)

/-- 応答を保存してはならないかどうか、または答えに要る部分のどれが欠けているか。 -/
def mustNotStore (r : Response) (shared : Bool) : Except Missing Bool :=
  match verdict r shared with
  | (_, some m) => .error m
  | (b, none) => .ok b

end HttpCaching.Storage
