import HttpCaching.Directive.Call
import HttpCaching.Directive.Binding
/-!
# 見張り役のついた操作の列

最初の集まり (番号 0) には見張り役が一人つくことがある。書き込みが成功するたびに、
見張り役は知らせを記録するか、ヘッダーの Cache-Control フィールドを書き出し直す
(空なら消す)。複製は見張り役を持たず、番号の列の末尾に加わる。
-/
namespace HttpCaching

/-- 集まり 0 への書き込みを聞く見張り役。 -/
inductive Watcher where
  | none
  /-- 書き込みはどれも知らせとして記録する。 -/
  | notices
  /-- ヘッダーのフィールドを、集まりのフィールドの値に合わせておく。 -/
  | field
  deriving DecidableEq, Repr

/-- 知らせ: 変わった集まりのフィールドの値と、その役割。 -/
structure Notice where
  header : String
  role : Role

/-- 0 から番号をつけたディレクティブの集まりと、集まり 0 の見張り役と、`field` の見張り役が
Cache-Control フィールドを合わせておくヘッダー。 -/
structure Session where
  objects : List Directives
  watcher : Watcher
  header : Http.Header

/-- 一歩の答え。 -/
structure StepResult where
  reply : Reply
  /-- 一歩の後の、対象の集まり。 -/
  target : Directives
  notices : List Notice
  /-- 後のヘッダーの Cache-Control の値。フィールドがなければ `none`。 -/
  field : Option (List String)
  /-- 複製につけた番号。 -/
  copyIndex : Option Nat

namespace Session

/-- 一つの集まりの上のセッション。ヘッダーにフィールドはない。 -/
def start (d : Directives) (w : Watcher) : Session := ⟨[d], w, Http.Header.empty⟩

/-- ヘッダーの Cache-Control フィールドに結びついた応答のディレクティブの上のセッション。 -/
def ofHeader (h : Http.Header) : Session := ⟨[Directives.ofHeader h], .field, h⟩

/-- セッションのヘッダーの Cache-Control の値。フィールドがなければ `none`。 -/
def field (s : Session) : Option (List String) := s.header.field? Directives.boundField

/-- `target` 番の集まりに操作を一つ走らせる。 -/
def step (s : Session) (target : Nat) (c : Call) : Session × StepResult :=
  let d := s.objects.getD target default
  let o := d.perform c
  let objects := s.objects.set target o.after
  let heard := o.wrote && target == 0
  let notices := if heard && s.watcher == .notices then [⟨o.after.render, o.after.role⟩] else []
  let header := if heard && s.watcher == .field then o.after.syncHeader s.header else s.header
  let field := header.field? Directives.boundField
  match o.reply with
  | .copied =>
    let i := objects.length
    (⟨objects ++ [o.after.copy], s.watcher, header⟩, ⟨o.reply, o.after, notices, field, some i⟩)
  | _ => (⟨objects, s.watcher, header⟩, ⟨o.reply, o.after, notices, field, none⟩)

/-- 操作を順に、それぞれが名指す集まりに走らせる。どの操作の結果も返す。 -/
def run (s : Session) : List (Nat × Call) → Session × List StepResult
  | [] => (s, [])
  | (target, c) :: rest =>
    let (s', r) := s.step target c
    let (s'', rs) := s'.run rest
    (s'', r :: rs)

end Session

end HttpCaching
