import ScriptScan.Text.Quoted

/-! # Problems

A problem says what is wrong and where. None of them stops a scan. -/

namespace ScriptScan

/-- What can be wrong with a script. -/
inductive Cause
  | unrecognised (text : Text)
  | unterminatedString
  | numberTooLarge (digits : Text)
deriving Repr, DecidableEq

namespace Cause

def name : Cause → Text
  | unrecognised _ => "UnrecognisedToken".toList
  | unterminatedString => "UnterminatedString".toList
  | numberTooLarge _ => "NumberParseError".toList

def message : Cause → Text
  | unrecognised text => "unrecognised token: ".toList ++ Text.quoted text
  | unterminatedString => "unterminated string literal".toList
  | numberTooLarge digits => "error parsing number: ".toList ++ Text.quoted digits

/-- A hint for the author of the script, for the causes that have one. -/
def advice? : Cause → Option Text
  | unrecognised _ => none
  | unterminatedString =>
    some "String literals must be closed with `\"` before the end of the line".toList
  | numberTooLarge digits =>
    some ("The number `".toList ++ digits ++
      "` isn't a valid i32, is it above the integer limit?".toList)

/-- The cause with all that it holds, as a record. -/
def inspect : Cause → Text
  | unrecognised text => inspectWith "UnrecognisedToken".toList text
  | unterminatedString => "UnterminatedString".toList
  | numberTooLarge digits => inspectWith "NumberParseError".toList digits
where
  inspectWith (name text : Text) : Text :=
    name ++ " \x7b token: ".toList ++ Text.quoted text ++ " \x7d".toList

end Cause

/-- A cause and the byte position it refers to. -/
structure Problem where
  cause : Cause
  position : Nat
deriving Repr, DecidableEq

namespace Problem

def name (p : Problem) : Text := p.cause.name

def display (p : Problem) : Text :=
  p.cause.message ++ " at ".toList ++ Text.decimal p.position

/-- The problem with all that it holds, as a record. -/
def inspect (p : Problem) : Text :=
  "Error \x7b internal_error: ".toList ++ p.cause.inspect ++ ", position: ".toList ++
    Text.decimal p.position ++ " \x7d".toList

end Problem

end ScriptScan
