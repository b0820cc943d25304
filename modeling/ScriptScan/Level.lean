import ScriptScan.Text.Basic

/-! # Log levels -/

namespace ScriptScan

inductive Level
  | error | warn | info | debug | trace
deriving Repr, DecidableEq

namespace Level

/-- Levels in the order of their detail. -/
def rank : Level → Nat
  | error => 1
  | warn => 2
  | info => 3
  | debug => 4
  | trace => 5

def name : Level → Text
  | error => "ERROR".toList
  | warn => "WARN".toList
  | info => "INFO".toList
  | debug => "DEBUG".toList
  | trace => "TRACE".toList

/-- A limit lets through its own level and those of less detail; without one nothing passes. -/
def passes (level : Level) (limit : Option Level) : Bool :=
  match limit with
  | some most => level.rank ≤ most.rank
  | none => false

end Level

end ScriptScan
