import HttpCaching.Cli.Run
/-!
# コマンド行

`cachecontrol` の入口。引数を読んで一回実行し、標準出力と標準エラーに書き、
終了状態を返す。この入口は空のファイルの集まりから始める: 作業ディレクトリに
規則ファイルも表のファイルも無いものとして扱う。
-/

/-- テキストを、それが表すバイトとして書く。 -/
def writeText (s : IO.FS.Stream) (t : String) : IO Unit :=
  s.write (ByteArray.mk ((HttpCaching.Text.bytesOf t).map UInt8.ofNat).toArray)

/-- コマンドラインを引数で一度走らせる。 -/
def main (args : List String) : IO UInt32 := do
  let (_, outcome) := HttpCaching.Cli.run args HttpCaching.Sql.World.empty
  let out ← IO.getStdout
  writeText out outcome.stdout
  out.flush
  let err ← IO.getStderr
  for line in outcome.stderr do
    writeText err (line ++ "\n")
  err.flush
  return outcome.exit.toUInt32
