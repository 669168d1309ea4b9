/-!
# キーの重ならない写像

項目を数え上げる順に並べた列で持つ写像。同じキーは二度現れない。数え上げの順は写像の側が
決めることで、同じ項目を別の順に並べた値は、同じ写像の別の数え上げ。値を置くと、あるキーは
位置を保って値だけが替わり、新しいキーは最初に数え上げられる。
-/
namespace HttpCaching

/-- キーの重ならない写像: 項目を数え上げる順に並べたもの。 -/
structure KeyMap (κ α : Type) where
  toList : List (κ × α)
  nodup : (toList.map (·.1)).Nodup
  deriving DecidableEq, Repr

namespace KeyMap

variable {κ α : Type} [DecidableEq κ]

/-- 空の写像。 -/
def empty : KeyMap κ α := ⟨[], List.nodup_nil⟩

instance : EmptyCollection (KeyMap κ α) := ⟨empty⟩

instance : Inhabited (KeyMap κ α) := ⟨empty⟩

/-- キーの値。 -/
def get? (m : KeyMap κ α) (k : κ) : Option α := (m.toList.find? (·.1 == k)).map (·.2)

/-- キーがあるかどうか。 -/
def contains (m : KeyMap κ α) (k : κ) : Bool := m.toList.any (·.1 == k)

theorem map_fst_replace (l : List (κ × α)) (k : κ) (v : α) :
    (l.map fun p => if p.1 == k then (p.1, v) else p).map (·.1) = l.map (·.1) := by
  induction l with
  | nil => rfl
  | cons p l ih =>
    simp only [List.map_cons, ih]
    split <;> rfl

/-- キーに値を置く。あるキーは数え上げの位置を保って値だけが替わり、新しいキーは最初に
数え上げられる。 -/
def insert (m : KeyMap κ α) (k : κ) (v : α) : KeyMap κ α :=
  if h : m.contains k then
    ⟨m.toList.map (fun p => if p.1 == k then (p.1, v) else p),
      (map_fst_replace m.toList k v).symm ▸ m.nodup⟩
  else
    ⟨(k, v) :: m.toList, List.nodup_cons.mpr ⟨by simpa [contains] using h, m.nodup⟩⟩

/-- キーを除く。ほかの項目の順は変わらない。 -/
def erase (m : KeyMap κ α) (k : κ) : KeyMap κ α :=
  ⟨m.toList.filter (·.1 != k), m.nodup.sublist (List.filter_sublist.map _)⟩

/-- 組を順に置いた写像: 同じキーは後の値が残る。 -/
def ofList (l : List (κ × α)) : KeyMap κ α := l.foldl (fun m p => m.insert p.1 p.2) empty

end KeyMap

end HttpCaching
