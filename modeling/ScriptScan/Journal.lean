import ScriptScan.Event

/-! # Journal of a scan

A journal keeps an event as a record if the limit on levels lets it through. -/

namespace ScriptScan

/-- The part of the program that a record comes from. -/
inductive Origin
  | scanner | problems
deriving Repr, DecidableEq

structure Record where
  level : Level
  origin : Origin
  message : Text
deriving Repr, DecidableEq

def Event.origin : Event → Origin
  | reported _ => .problems
  | _ => .scanner

/-- The record that an event leaves, before any limit. -/
def Event.record (event : Event) : Record :=
  { level := event.level, origin := event.origin, message := event.message }

/-- Keeps what the limit lets through. -/
def Journal.keep (limit : Option Level) : Listener (Array Record) := fun records event =>
  if event.level.passes limit then records.push event.record else records

end ScriptScan
