import ScriptScan.Problem
import ScriptScan.Text.Place
import ScriptScan.Text.Trim

/-! # Reports of a problem

A report names the problem and the file, and shows the line with a caret under the character that
the problem refers to:

```text
Error: NumberParseError (The number `99999999999` isn't a valid i32, ...)
-> shell
  |
1 | let x = 99999999999
  | --------^
```

Leading spaces of the line are left out, and the caret moves left with the line. A problem that
refers to no character of the source has the first two lines only. -/

namespace ScriptScan

/-- A report that cannot be laid out. -/
inductive LayoutError
  | widthOutOfRange
deriving Repr, DecidableEq

def LayoutError.message : LayoutError → Text
  | widthOutOfRange => "Formatting argument out of range".toList

namespace Problem.Report

/-- The largest width that a text can be padded to. -/
def widthLimit : Nat := 65535

/-- Fills up on the left to a width. -/
def padLeft (fill : Char) (width : Nat) (t : Text) : Except LayoutError Text :=
  if widthLimit < width then .error .widthOutOfRange else .ok (t.leftpad width fill)

/-- The problem's name, with advice if there is any, and the file. -/
def heading (problem : Problem) (file : Text) : Text :=
  "Error: ".toList ++ problem.name ++ advice ++ "\n-> ".toList ++ file ++ ['\n']
where
  advice : Text := match problem.cause.advice? with
    | some text => " (".toList ++ text ++ [')']
    | none => []

/-- The bar row, the row of the line, and the row of the caret. -/
def excerpt (place : Text.Place) : Except LayoutError Text := do
  let number := Text.decimal place.number
  let spaces := place.line.takeWhile (· == ' ')
  let shown := Text.trimEnd (place.line.dropWhile (· == ' '))
  let bar ← padLeft ' ' (number.length + 2) ['|']
  let caret ← padLeft '-' (place.column - spaces.length + 1) ['^']
  return bar ++ ['\n'] ++ number ++ " | ".toList ++ shown ++ ['\n'] ++ bar ++ [' '] ++ caret ++
    ['\n']

end Problem.Report

/-- The report of a problem in a source. -/
def Problem.report (problem : Problem) (source file : Text) : Except LayoutError Text :=
  match Text.placeAt source problem.position with
  | none => .ok (Report.heading problem file)
  | some place => do return Report.heading problem file ++ (← Report.excerpt place)

end ScriptScan
