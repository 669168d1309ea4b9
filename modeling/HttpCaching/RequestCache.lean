import HttpCaching.Directive.Directives
import HttpCaching.Field.Read
/-!
# 要求ディレクティブの記憶

同じ Cache-Control の行を何度も読まないよう、読んだ結果を最近使った順の表 (LRU) に覚える。
鍵は行を `", "` でつないだもの。1024 バイトを超える鍵は覚えない。無い記憶 (`disabled`) は
毎回読む。読むたびに通し番号 (`serial`) を振るので、同じ番号が返れば同じ結果を共有した
ことになる。

表そのものは引数 `Lru` で、記憶はその操作 (作る・引く・足す・数える・空にする) だけを呼ぶ。
動かすときの表は、最近使った順の列 `LruList`: 容量を超えたら最も長く使われていないものを
捨てる。
-/
namespace HttpCaching

/-- 読んだ要求ディレクティブと、それを作った読み取りの通し番号。 -/
structure Parsed where
  serial : Nat
  directives : Directives
  deriving Inhabited

/-- 状態 `σ` を持つ、テキストから値への LRU の操作。記憶が呼ぶのは、大きさを決めて作る、
使ったことにして引く、値を足す、持っている数、空にする、の五つ。使ったことにせずに覗く
`peek` と容量 `capacity` は、表の法則が語るためのもの。 -/
structure Lru (σ α : Type) where
  new : Nat → σ
  get : σ → String → σ × Option α
  add : σ → String → α → σ
  len : σ → Nat
  purge : σ → σ
  peek : σ → String → Option α
  capacity : σ → Nat

/-- 最近使った順 (先頭が最新) の列で持つ LRU。長さは容量を超えない。 -/
structure LruList (α : Type) where
  capacity : Nat
  entries : List (String × α)
  bounded : entries.length ≤ capacity

namespace LruList

variable {α : Type}

/-- 空の表。 -/
def new (n : Nat) : LruList α := ⟨n, [], Nat.zero_le n⟩

/-- 鍵の値を、使ったことにせずに覗く。 -/
def peek (s : LruList α) (k : String) : Option α := (s.entries.find? (·.1 == k)).map (·.2)

theorem length_filter_lt {l : List (String × α)} {k : String} {e : String × α}
    (h : l.find? (·.1 == k) = some e) : (l.filter (·.1 != k)).length < l.length :=
  List.length_filter_lt_length_iff_exists.mpr
    ⟨e, List.mem_of_find?_eq_some h, by simpa using List.find?_some h⟩

/-- 鍵を引く。見つかればその項目を先頭に移す。 -/
def get (s : LruList α) (k : String) : LruList α × Option α :=
  match h : s.entries.find? (·.1 == k) with
  | some (_, v) =>
    (⟨s.capacity, (k, v) :: s.entries.filter (·.1 != k),
      Nat.le_trans (length_filter_lt h) s.bounded⟩, some v)
  | none => (s, none)

/-- 鍵に値を足して先頭に置く。前の値は除き、容量を超えた分は最も長く使われていないものから
捨てる。 -/
def add (s : LruList α) (k : String) (v : α) : LruList α :=
  ⟨s.capacity, ((k, v) :: s.entries.filter (·.1 != k)).take s.capacity, List.length_take_le _ _⟩

/-- すべて捨てる。容量は変わらない。 -/
def purge (s : LruList α) : LruList α := ⟨s.capacity, [], Nat.zero_le _⟩

/-- 列で持つ LRU の操作。 -/
def lru : Lru (LruList α) α := ⟨new, get, add, (·.entries.length), purge, peek, (·.capacity)⟩

end LruList

/-- LRU `σ` の上の要求ディレクティブの記憶と、次の通し番号。表が無い (`none`) のは無い記憶で、
毎回読む。 -/
structure RequestCache (σ : Type) where
  lru : Option σ
  nextSerial : Nat

namespace RequestCache

variable {σ : Type} (L : Lru σ Parsed)

/-- 大きさが与えられない (あるいは正でない) ときの大きさ。 -/
def defaultCapacity : Nat := 512

/-- 覚える鍵の最大のバイト数。 -/
def maxKeyBytes : Nat := 1024

/-- 空の記憶。大きさが 0 以下なら既定の大きさ。 -/
def create (size : Int) : RequestCache σ :=
  ⟨some (L.new (if size ≤ 0 then defaultCapacity else size.toNat)), 0⟩

/-- 無い記憶: 何も覚えず、毎回読み直す。 -/
def disabled : RequestCache σ := ⟨none, 0⟩

/-- 覚えている結果の数。 -/
def size (c : RequestCache σ) : Nat :=
  match c.lru with
  | some s => L.len s
  | none => 0

/-- すべて忘れる。通し番号は数え続ける。 -/
def purge (c : RequestCache σ) : RequestCache σ := { c with lru := c.lru.map L.purge }

/-- 行の鍵。 -/
def key (lines : List String) : String := ", ".intercalate lines

/-- 行を新しく読んだ結果と、その通し番号。 -/
def parse (serial : Nat) (lines : List String) : Parsed :=
  ⟨serial, Directives.ofList .request (Field.read lines)⟩

/-- 新しく読んだ結果を返し、通し番号を進める。 -/
def fresh (c : RequestCache σ) (lines : List String) : RequestCache σ × Parsed :=
  ({ c with nextSerial := c.nextSerial + 1 }, parse c.nextSerial lines)

/-- 行の要求ディレクティブ。無い記憶と長すぎる鍵は新しく読む。表に鍵があればその結果
(使ったことになる)、なければ新しく読んで表に足す。 -/
def get (c : RequestCache σ) (lines : List String) : RequestCache σ × Parsed :=
  match c.lru with
  | none => c.fresh lines
  | some s =>
    let k := key lines
    if k.utf8ByteSize > maxKeyBytes then c.fresh lines
    else
      match L.get s k with
      | (s, some p) => ({ c with lru := some s }, p)
      | (s, none) =>
        let p := parse c.nextSerial lines
        (⟨some (L.add s k p), c.nextSerial + 1⟩, p)

end RequestCache

end HttpCaching
