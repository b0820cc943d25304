import ScriptScan.Shell

/-! # The command line: the shell on standard input and output -/

namespace ScriptScan.Main

/-- Reads bytes up to a line feed or the end of input. -/
partial def readLine (input : IO.FS.Stream) (line : Array UInt8) : IO (List UInt8) := do
  let bytes ← input.read 1
  if bytes.isEmpty then return line.toList
  let line := line ++ bytes.data
  if bytes.data.contains Shell.lineFeed then return line.toList else readLine input line

/-- Answers one line after the other until one ends the shell. -/
partial def serve (input output errors : IO.FS.Stream) : IO UInt32 := do
  output.putStr (String.ofList Shell.prompt)
  output.flush
  let reply := Shell.respond (← readLine input #[])
  output.putStr (String.ofList reply.out)
  output.flush
  errors.putStr (String.ofList reply.err)
  match reply.exit? with
  | some code => return code.toUInt32
  | none => serve input output errors

end ScriptScan.Main

def main : IO UInt32 := do
  ScriptScan.Main.serve (← IO.getStdin) (← IO.getStdout) (← IO.getStderr)
