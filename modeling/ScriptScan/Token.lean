import ScriptScan.Kind
import ScriptScan.Problem

/-! # Tokens -/

namespace ScriptScan

/-- One unit of a script: its kind, the byte position of its first character, its text and, for a
number that is not too large, its value. A string holds its text without the quotes. -/
structure Token where
  kind : Kind
  position : Nat
  text : Text
  value : Option Int := none
deriving Repr, DecidableEq

namespace Token

/-- The line that a listing shows. -/
def display (t : Token) : Text :=
  t.kind.name ++ ": '".toList ++ t.text ++ ['\''] ++
    match t.value with
    | some v => ' ' :: Text.signedDecimal v
    | none => []

/-- The token with all that it holds, as a record. -/
def inspect (t : Token) : Text :=
  "Token \x7b kind: ".toList ++ t.kind.name ++ ", position: ".toList ++
    Text.decimal t.position ++ ", text: ".toList ++ Text.quoted t.text ++ ", value: ".toList ++
    value ++ " \x7d".toList
where
  value : Text := match t.value with
    | some v => "Some(".toList ++ Text.signedDecimal v ++ [')']
    | none => "None".toList

/-- The cause that a bad token's text tells. A line end or a quote is what an unterminated string
leaves behind; any other text is one that starts no token. -/
def badCause (text : Text) : Cause :=
  if text = ['\n'] ∨ text = ['\r'] ∨ text = ['"'] then .unterminatedString
  else .unrecognised text

/-- The problem that a bad token stands for; no other token has one. -/
def problem? (t : Token) : Option Problem :=
  if t.kind = .bad then some { cause := badCause t.text, position := t.position } else none

end Token

end ScriptScan
