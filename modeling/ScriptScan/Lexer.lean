import ScriptScan.Lexeme.Read

/-! # Lexers

A lexer hands out the tokens of a text one by one. Its state is the text still ahead and the byte
position reached; nothing else is remembered between tokens. At the end it answers with the
end token again and again. -/

namespace ScriptScan

structure Lexer where
  rest : Text
  position : Nat
deriving Repr, DecidableEq

namespace Lexer

def ofText (source : Text) : Lexer := { rest := source, position := 0 }

/-- What opening a lexer tells. -/
def opening (source : Text) : Event := .opened (Text.byteLength source)

def atEnd (lx : Lexer) : Bool := lx.rest.isEmpty

/-- The token that stands for the end of the text. -/
def endToken (lx : Lexer) : Token := { kind := .endOfText, position := lx.position, text := [] }

/-- One step of a scan: the token, what there is to tell about it, and the lexer after it. -/
structure Step where
  token : Token
  events : List Event
  after : Lexer
deriving Repr, DecidableEq

/-- The step over the lexeme ahead; none at the end. -/
def next? (lx : Lexer) : Option Step :=
  match lx.rest with
  | [] => none
  | c :: rest =>
    let (lexeme, ahead) := Lexeme.read c rest
    some
      { token := lexeme.tokenAt lx.position
        events := lexeme.eventsAt lx.position
        after := { rest := ahead, position := lx.position + Text.byteLength lexeme.spelling } }

/-- The step over the lexeme ahead; at the end, a step to the end token that goes nowhere. -/
def step (lx : Lexer) : Step :=
  lx.next?.getD { token := lx.endToken, events := [], after := lx }

/-- What a stretch of a scan yields: its tokens, the lexer after them, and the state of the
listener. -/
structure Taken (σ : Type) where
  tokens : List Token
  after : Lexer
  heard : σ
deriving Repr, DecidableEq

variable {σ : Type} (hear : Listener σ)

/-- Takes at most `n` tokens more. The tokens taken before stand in front, the latest first. -/
def takeOn : Nat → Taken σ → Taken σ
  | 0, taken => taken
  | n + 1, ⟨tokens, lx, heard⟩ =>
    match lx.next? with
    | none => ⟨tokens, lx, heard⟩
    | some s => takeOn n ⟨s.token :: tokens, s.after, s.events.foldl hear heard⟩

/-- Takes at most `n` tokens. -/
def take (n : Nat) (lx : Lexer) (heard : σ) : Taken σ :=
  let taken := takeOn hear n ⟨[], lx, heard⟩
  { taken with tokens := taken.tokens.reverse }

/-- Takes all tokens that are left. As each has at least one character, there are no more of them
than characters ahead. -/
def takeRest (lx : Lexer) (heard : σ) : Taken σ := take hear lx.rest.length lx heard

/-! ## Taking token by token -/

theorem takeOn_eq (n : Nat) (tokens : List Token) (lx : Lexer) (heard : σ) :
    takeOn hear n ⟨tokens, lx, heard⟩ =
      { take hear n lx heard with tokens := (take hear n lx heard).tokens.reverse ++ tokens } := by
  induction n generalizing tokens lx heard with
  | zero => simp [take, takeOn]
  | succ n ih =>
    unfold take takeOn
    cases lx.next? with
    | none => simp
    | some s =>
      simp only
      rw [ih, ih]
      simp

@[simp] theorem take_zero (lx : Lexer) (heard : σ) : take hear 0 lx heard = ⟨[], lx, heard⟩ := rfl

theorem take_succ_of_none {lx : Lexer} (h : lx.next? = none) (n : Nat) (heard : σ) :
    take hear (n + 1) lx heard = ⟨[], lx, heard⟩ := by
  simp [take, takeOn, h]

theorem take_succ_of_some {lx : Lexer} {s : Step} (h : lx.next? = some s) (n : Nat) (heard : σ) :
    take hear (n + 1) lx heard =
      let others := take hear n s.after (s.events.foldl hear heard)
      { others with tokens := s.token :: others.tokens } := by
  rw [take]
  simp only [takeOn, h]
  rw [takeOn_eq]
  simp

end Lexer

/-- The tokens of a text, the end token last, and what the listener made of the scan. -/
def tokenize {σ : Type} (hear : Listener σ) (source : Text) (heard : σ) : List Token × σ :=
  let taken := Lexer.takeRest hear (.ofText source) (hear heard (Lexer.opening source))
  (taken.tokens ++ [taken.after.endToken], taken.heard)

/-- The tokens of a text, and its problems in the order of the scan. -/
structure Scan where
  tokens : List Token
  problems : List Problem
deriving Repr, DecidableEq

def scan (source : Text) : Scan :=
  let (tokens, problems) := tokenize Problem.collect source #[]
  { tokens, problems := problems.toList }

end ScriptScan
