import ScriptScan.Kind
import ScriptScan.Level
import ScriptScan.Problem

/-! # Events of a scan

A scan tells what happens as it goes. A listener gathers the events into a state of its own; it
has no way to change the scan. -/

namespace ScriptScan

inductive Event
  /-- A scan starts over a text of so many bytes. -/
  | opened (bytes : Nat)
  /-- A number has no value. -/
  | undecoded (digits : Text)
  /-- The string that a quote opens is cut off by the end of its line. -/
  | cutOff (quote : Nat)
  /-- The string that a quote opens runs to the end of the text. -/
  | ranOff (quote : Nat)
  /-- A token is made, other than a number or the end token. -/
  | made (kind : Kind) (position : Nat)
  /-- A problem is reported. -/
  | reported (problem : Problem)
deriving Repr, DecidableEq

namespace Event

/-- The level at which an event is worth knowing. -/
def level : Event → Level
  | opened _ | undecoded _ | cutOff _ | ranOff _ => .debug
  | made .. => .trace
  | reported _ => .warn

def message : Event → Text
  | opened bytes => "Initializing lexer over ".toList ++ Text.decimal bytes ++ " bytes".toList
  | undecoded digits =>
    "Failed to decode ".toList ++ Text.quoted digits ++
      ": number too large to fit in target type".toList
  | cutOff quote => "Unterminated string literal starting at ".toList ++ Text.decimal quote
  | ranOff quote =>
    "String literal starting at ".toList ++ Text.decimal quote ++
      " runs off the end of input".toList
  | made kind position => kind.name ++ " at ".toList ++ Text.decimal position
  | reported problem => problem.name ++ ": ".toList ++ problem.display

end Event

abbrev Listener (σ : Type) := σ → Event → σ

/-- Keeps the problems and passes over all else. -/
def Problem.collect : Listener (Array Problem)
  | problems, .reported problem => problems.push problem
  | problems, _ => problems

end ScriptScan
