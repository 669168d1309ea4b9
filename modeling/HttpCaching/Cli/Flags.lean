import HttpCaching.Text.Literal
/-!
# コマンド行の旗

`cachecontrol` の旗とその読み方。旗は `-名前 値`、`-名前=値`、`--名前` の形で、
真偽の旗は値なしで真になる。旗でない引数か `--` で読むのをやめ、残りは無視する。
知らない旗、値のない旗、読めない真偽値は誤りで、使い方の説明を添える。
`-h` と `-help` は使い方だけを出す。文字列の旗は最後の値が、繰り返せる旗は
全部の値が残る。
-/
namespace HttpCaching.Cli

/-- コマンドラインが求めること。 -/
structure Options where
  request : String
  response : String
  sets : List String
  deletes : List String
  rules : String
  path : String
  method : String
  db : String
  save : String
  purge : String
  list : Bool
  trace : Bool
  deriving Repr, Inhabited

/-- フラグを読む前の選択。 -/
def Options.initial : Options :=
  ⟨"", "", [], [], "", "/", "GET", "", "", "", false, false⟩

/-- フラグの種類。 -/
inductive FlagKind where
  /-- 一つのテキスト。最後に与えたものが効く。 -/
  | text
  /-- 何度でも与えてよいテキスト。 -/
  | repeated
  /-- 切り替え。それだけで与えればオン。 -/
  | switch
  deriving DecidableEq, Repr

/-- フラグ: 名前、種類、説明の文、使い方に見せる既定の値。 -/
structure Flag where
  name : String
  kind : FlagKind
  usage : String
  shownDefault : Option String

/-- 名前の順のフラグ。 -/
def flags : List Flag :=
  [⟨"db", .text, "Policy DB file name (use 'memory' for in-memory db)", none⟩,
   ⟨"delete", .repeated, "Delete a response directive (repeatable)", none⟩,
   ⟨"list", .switch, "List stored policies", none⟩,
   ⟨"method", .text, "Request method used to match rules and policies", some "GET"⟩,
   ⟨"path", .text, "Request path used to match rules and policies", some "/"⟩,
   ⟨"purge", .text, "Remove the stored policy for this prefix", none⟩,
   ⟨"request", .text, "Request Cache-Control header to inspect", none⟩,
   ⟨"response", .text, "Response Cache-Control header to start from", none⟩,
   ⟨"rules", .text, "Rules file to apply to the response", none⟩,
   ⟨"save", .text, "Store the resulting response header as the policy for this prefix", none⟩,
   ⟨"set", .repeated, "Set a response directive, as name=value or name (repeatable)", none⟩,
   ⟨"vv", .switch, "Verbosity: trace logging", none⟩]

/-- フラグを説明する行。 -/
def Flag.usageLines (f : Flag) : List String :=
  let kindWord := match f.kind with
    | .text => " string"
    | .repeated => " value"
    | .switch => ""
  let defaultText := match f.shownDefault with
    | some d => " (default " ++ Text.quoteLiteral d ++ ")"
    | none => ""
  ["  -" ++ f.name ++ kindWord, "    \t" ++ f.usage ++ defaultText]

/-- 使い方の文を一行ずつ。 -/
def usageLines : List String :=
  "Usage of cachecontrol:" :: flags.flatMap Flag.usageLines

/-- テキストか繰り返しのフラグを置く。 -/
def Options.assign (o : Options) (name value : String) : Options :=
  match name with
  | "request" => { o with request := value }
  | "response" => { o with response := value }
  | "set" => { o with sets := o.sets ++ [value] }
  | "delete" => { o with deletes := o.deletes ++ [value] }
  | "rules" => { o with rules := value }
  | "path" => { o with path := value }
  | "method" => { o with method := value }
  | "db" => { o with db := value }
  | "save" => { o with save := value }
  | "purge" => { o with purge := value }
  | _ => o

/-- 切り替えを置く。 -/
def Options.turn (o : Options) (name : String) (on : Bool) : Options :=
  match name with
  | "list" => { o with list := on }
  | "vv" => { o with trace := on }
  | _ => o

/-- 切り替えが受け付ける真偽の値。 -/
def readBool? (s : String) : Option Bool :=
  if ["1", "t", "T", "TRUE", "true", "True"].contains s then some true
  else if ["0", "f", "F", "FALSE", "false", "False"].contains s then some false
  else none

/-- コマンドラインの読み取りがどう終わったか。 -/
inductive Parsed where
  | options (o : Options)
  /-- 説明を求められた。 -/
  | help
  /-- フラグが読めなかった。文がわけを言う。 -/
  | bad (message : String)

/-- フラグでない引数か `--` まで、フラグを読む。 -/
def readFlags (o : Options) : List String → Parsed
  | [] => .options o
  | arg :: rest =>
    let cs := arg.toList
    if cs.length < 2 || cs.head? != some '-' then .options o
    else
      let body := if (cs.drop 1).head? == some '-' then cs.drop 2 else cs.drop 1
      if arg == "--" then .options o
      else if body.isEmpty || body.head? == some '-' || body.head? == some '=' then
        .bad ("bad flag syntax: " ++ arg)
      else
        let name := String.ofList (body.takeWhile (· != '='))
        let value : Option String :=
          if body.contains '=' then some (String.ofList ((body.dropWhile (· != '=')).drop 1))
          else none
        match flags.find? (·.name == name) with
        | none =>
          if name == "help" || name == "h" then .help
          else .bad ("flag provided but not defined: -" ++ name)
        | some f =>
          match f.kind, value with
          | .switch, none => readFlags (o.turn name true) rest
          | .switch, some v =>
            match readBool? v with
            | some b => readFlags (o.turn name b) rest
            | none =>
              .bad ("invalid boolean value " ++ Text.quoteLiteral v ++ " for -" ++ name ++
                ": parse error")
          | _, some v => readFlags (o.assign name v) rest
          | _, none =>
            match rest with
            | v :: rest' => readFlags (o.assign name v) rest'
            | [] => .bad ("flag needs an argument: -" ++ name)

end HttpCaching.Cli
