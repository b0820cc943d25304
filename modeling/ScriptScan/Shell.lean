import ScriptScan.Lexer
import ScriptScan.Problem.Report
import ScriptScan.Text.Encoding
import ScriptScan.Text.Lines
import ScriptScan.Text.Trim

/-! # The shell

The shell prompts for a line, lists its tokens on standard output and reports its problems on
standard error, until a blank line or the end of input. Lines are bytes as read, each with its line
feed; one that is not valid UTF-8 ends the shell with an error. -/

namespace ScriptScan.Shell

/-- The name that reports show in place of a file. -/
def fileName : Text := "shell".toList

def prompt : Text := "> ".toList

/-- The byte that ends a line. -/
def lineFeed : UInt8 := 10

/-- The problems of a line, in the order of their positions: those that bad tokens stand for and
those reported by the scan. -/
def problems (source : Text) : List Problem :=
  let s := scan source
  (s.tokens.filterMap Token.problem? ++ s.problems).mergeSort fun p q => p.position ≤ q.position

/-- One row for each token but the end token. -/
def listing (source : Text) : Text :=
  (scan source).tokens.dropLast.flatMap fun t => t.display ++ ['\n']

/-- The reports of problems one after the other, up to the first that cannot be laid out. -/
def reports (source : Text) : List Problem → Text × Option LayoutError
  | [] => ([], none)
  | problem :: others =>
    match problem.report source fileName with
    | .error e => ([], some e)
    | .ok report =>
      let (rest, failure) := reports source others
      (report ++ rest, failure)

/-- What the shell writes for a line, and its exit code if the line ends it. -/
structure Reply where
  out : Text := []
  err : Text := []
  exit? : Option Nat := none
deriving Repr, DecidableEq

def unreadable : Text :=
  ("Error: Error \x7b kind: InvalidData, " ++
    "message: \"stream did not contain valid UTF-8\" \x7d\n").toList

/-- The source of a line: the line without the line feeds and carriage returns at its end. -/
def sourceOf (line : Text) : Text := Text.dropEndWhile Text.isLineEnd line

/-- The reply to the source of a line that is not blank. -/
def run (source : Text) : Reply :=
  match reports source (problems source) with
  | (err, none) => { out := listing source, err }
  | (err, some e) => { out := listing source, err := err ++ e.message ++ ['\n'], exit? := some 101 }

/-- The reply to a line as read. The end of input reads as an empty line, which is blank. -/
def respond (line : List UInt8) : Reply :=
  match Text.decodeUtf8 line with
  | none => { err := unreadable, exit? := some 1 }
  | some line => if Text.isAllBlank line then { exit? := some 0 } else run (sourceOf line)

/-- All that the shell writes, and its exit code. -/
structure Transcript where
  stdout : Text
  stderr : Text
  code : Nat
deriving Repr, DecidableEq

/-- The transcript over the lines of the input. Lines after the one that ends the shell are never
looked at. -/
def transcriptOf : List (List UInt8) → Transcript
  | [] => { stdout := prompt, stderr := [], code := 0 }
  | line :: lines =>
    let reply := respond line
    match reply.exit? with
    | some code => { stdout := prompt ++ reply.out, stderr := reply.err, code }
    | none =>
      let after := transcriptOf lines
      { after with stdout := prompt ++ reply.out ++ after.stdout, stderr := reply.err ++ after.stderr }

/-- The transcript of the shell on the bytes of its input. -/
def transcript (input : List UInt8) : Transcript :=
  transcriptOf (Text.splitLines lineFeed input)

end ScriptScan.Shell
