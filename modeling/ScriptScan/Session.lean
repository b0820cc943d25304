import ScriptScan.Lexer

/-! # Sessions

A session holds any number of lexers, each over its own text, that report to one shared list of
problems. Requests to different lexers may come in any order; a lexer is named by its number in the
order of opening. -/

namespace ScriptScan

/-- The ways to ask a lexer for tokens. -/
inductive Pull
  /-- The next token; at the end, the end token. -/
  | step
  /-- The next token, if there is one. -/
  | next
  /-- At most so many tokens. -/
  | take (count : Nat)
  /-- All tokens that are left. -/
  | rest
  /-- None: the lexer is only looked at. -/
  | look
deriving Repr, DecidableEq

/-- The tokens that a lexer hands out when asked so. -/
def Lexer.pull {σ : Type} (hear : Listener σ) (how : Pull) (lx : Lexer) (heard : σ) :
    Lexer.Taken σ :=
  match how with
  | .step =>
    let s := lx.step
    { tokens := [s.token], after := s.after, heard := s.events.foldl hear heard }
  | .next => lx.take hear 1 heard
  | .take count => lx.take hear count heard
  | .rest => lx.takeRest hear heard
  | .look => { tokens := [], after := lx, heard }

/-- What can be asked of a session. -/
inductive Request
  | start (source : Text)
  | pull (lexer : Nat) (how : Pull)
  | report (problem : Problem)
  | close (lexer : Nat)
deriving Repr, DecidableEq

inductive Reply
  /-- The number of the new lexer. -/
  | started (lexer : Nat)
  /-- Tokens handed out, and the lexer after them. -/
  | pulled (tokens : List Token) (after : Lexer)
  | reported
  /-- All problems so far. -/
  | closed (problems : List Problem)
deriving Repr, DecidableEq

/-- The reply to a request, and the problems that came in with it. -/
structure Answer where
  reply : Reply
  arrived : List Problem
deriving Repr, DecidableEq

structure Session where
  lexers : Array Lexer := #[]
  problems : Array Problem := #[]
deriving Repr, DecidableEq

namespace Session

/-- The session after a request, and the reply; none if no lexer has the number asked for. -/
def respond (session : Session) : Request → Option (Session × Reply)
  | .start source =>
    some
      ({ lexers := session.lexers.push (.ofText source)
         problems := Problem.collect session.problems (Lexer.opening source) },
        .started session.lexers.size)
  | .pull lexer how => do
    let lx ← session.lexers[lexer]?
    let taken := lx.pull Problem.collect how session.problems
    some
      ({ lexers := session.lexers.setIfInBounds lexer taken.after
         problems := taken.heard },
        .pulled taken.tokens taken.after)
  | .report problem =>
    some
      ({ session with problems := Problem.collect session.problems (.reported problem) }, .reported)
  | .close lexer => do
    let _ ← session.lexers[lexer]?
    some (session, .closed session.problems.toList)

/-- One request, with the problems that it brought in. -/
def answer (session : Session) (request : Request) : Option (Session × Answer) := do
  let (after, reply) ← session.respond request
  some (after, { reply, arrived := after.problems.toList.drop session.problems.size })

/-- The answers to requests made one after the other. -/
def run (session : Session) : List Request → Option (List Answer)
  | [] => some []
  | request :: requests => do
    let (after, first) ← session.answer request
    let others ← run after requests
    some (first :: others)

end Session

end ScriptScan
