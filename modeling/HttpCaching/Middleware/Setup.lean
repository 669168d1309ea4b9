import HttpCaching.Rules.Rule
import HttpCaching.Policy.Store
import HttpCaching.RequestCache
import HttpCaching.Log
/-!
# ミドルウェアの組み立て

設定の規則を確かめ、ポリシーの保管庫があればその全部を読み、規則の後ろに
保管されたポリシーの規則 (接頭辞の長い順) を足す。規則が一つでも不正なら、
あるいは保管庫が読めなければ組み立ては失敗する。保管庫を読んだときは
読んだ数を debug で記録する。要求の Cache-Control の解析結果は大きさの決まった
表に覚えておく。
-/
namespace HttpCaching.Middleware

open Rules

/-- 応える用意のできたミドルウェア: 試す順の規則と、覚えている読んだ要求のフィールド。 -/
structure Layer where
  rules : List Rule
  requests : RequestCache (LruList Parsed)

/-- ミドルウェアを用意できなかったわけ。 -/
inductive SetupError where
  | invalidRules (b : BadRule)
  | loadingPolicies (e : Policy.StoreError)

namespace SetupError

/-- 用意の誤りの文。 -/
def message : SetupError → String
  | .invalidRules b => "invalid rules: " ++ b.message
  | .loadingPolicies e => "loading policies: " ++ e.message

/-- 用意の誤りの種類: その原因の種類。 -/
def kind : SetupError → ErrorKind
  | .invalidRules b => b.cause.kind
  | .loadingPolicies e => e.kind

end SetupError

/-- ミドルウェアのどの記録も運ぶ値。 -/
def component : List (String × Log.Value) := [("component", .text "cachecontrol")]

/-- 規則、方針の保管庫があればその一覧、覚える要求のフィールドの数 (0 以下なら既定の数)
からミドルウェアを用意する。その間に書いた記録も返す。 -/
def Layer.create (rules : List Rule) (policies : Option Policy.Listing) (cacheSize : Int) :
    Except SetupError (Layer × List Log.Entry) := do
  if let some b := validate rules then throw (.invalidRules b)
  let (rules, logs) ← match policies with
    | none => pure (rules, [])
    | some listing =>
      match listing.failure with
      | some e => throw (.loadingPolicies e)
      | none =>
        let ps := listing.policies
        pure (rules ++ ofPolicies ps,
          [Log.Entry.within component .debug [("policies", .int ps.length)]
            "Loaded stored policies"])
  return (⟨rules, RequestCache.create LruList.lru cacheSize⟩, logs)

end HttpCaching.Middleware
