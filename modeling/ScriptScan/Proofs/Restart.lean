import ScriptScan.Proofs.DigitRuns
import ScriptScan.Proofs.Extension

/-! # A scan can start anew wherever it has come to

Nothing is carried over from one token to the next: behind any number of steps, be it in the middle
of digits that are no number, behind a string that its line end cuts off or behind the quote of one
that runs to the end, a lexer goes on as a scan of the text ahead of it would, all positions moved on
by its own. The steps over what is ahead are read off its lexemes (`steps_to_end`), and these do not
depend on where the text starts; the places of their tokens and problems do, and move with it. -/

namespace ScriptScan
open Lexeme
open Text (byteLength slice?)

theorem map_moved_tokens_scan (d : Nat) (source : Text) :
    (scan source).tokens.map (Token.moved d) =
      tokensFrom d (lexemes source) ++ [.endAt (d + byteLength source)] := by
  rw [tokens_scan, List.map_append, ← tokensFrom_add, Nat.add_zero]
  rfl

theorem map_moved_problems_scan (d : Nat) (source : Text) :
    (scan source).problems.map (Problem.moved d) = problemsFrom d (lexemes source) := by
  rw [problems_scan, ← problemsFrom_add, Nat.add_zero]

namespace Lexer
variable {source : Text} {lx : Lexer}

/-! ## Steps to the end -/

section
variable {σ : Type} (hear : Listener σ)

/-- A step over each lexeme ahead, and one more to the end token. -/
theorem steps_to_end {ls : List Lexeme} (h : lexemes lx.rest = ls) (heard : σ) :
    lx.steps hear (ls.length + 1) heard =
      { tokens := tokensFrom lx.position ls ++ [.endAt (lx.position + byteLength (spellings ls))]
        after := { rest := [], position := lx.position + byteLength (spellings ls) }
        heard := (eventsFrom lx.position ls).foldl hear heard } := by
  induction ls generalizing lx heard with
  | nil =>
    have hr := spellings_lexemes lx.rest
    rw [h, spellings_nil] at hr
    obtain ⟨rest, position⟩ := lx
    subst hr
    rfl
  | cons l ls ih =>
    have hrest : lexemes (lx.skip 1).rest = ls := by
      rw [lexemes_skip, h, List.drop_one, List.tail_cons]
    have hpull : lx.pull hear .step heard =
        ⟨[l.tokenAt lx.position], lx.skip 1, (l.eventsAt lx.position).foldl hear heard⟩ := by
      rw [pull, step_of_cons h]
    rw [List.length_cons, Lexer.steps, hpull]
    simp only [ih hrest, position_skip_one h, tokensFrom, eventsFrom, placed, spellings_cons,
      Text.byteLength_append, Nat.add_assoc, List.map_cons, List.flatMap_cons, List.foldl_append,
      List.cons_append, List.nil_append]

end

/-- The lexer goes on over the text `rest` ahead of it as a scan of this text alone, moved on by the
position of the lexer. -/
structure GoesOnAs (source rest : Text) (lx : Lexer) : Prop where
  ahead : slice? source lx.position (byteLength source) = some rest
  /-- As many steps as the scan has tokens answer with these, and hand a sink its problems. -/
  steps_eq : ∀ {σ : Type} (report : σ → Problem → σ) (heard : σ),
    lx.steps (Problem.handTo report) (scan rest).tokens.length heard =
      { tokens := (scan rest).tokens.map (Token.moved lx.position)
        after := { rest := [], position := byteLength source }
        heard := ((scan rest).problems.map (Problem.moved lx.position)).foldl report heard }
  /-- The last of these steps is the first that answers with the end token. -/
  upToEnd : ∃ tokens last, (scan rest).tokens = tokens ++ [last] ∧ last.kind = .endOfText ∧
    ∀ t ∈ tokens, t.kind ≠ .endOfText

theorem Reachable.goesOnAs (h : Reachable source lx) : GoesOnAs source lx.rest lx where
  ahead := h.proceeds.ahead
  steps_eq report heard := by
    obtain ⟨_, hstands⟩ := h.exists_standsIn
    have hlength : (scan lx.rest).tokens.length = (lexemes lx.rest).length + 1 := by
      rw [tokens_scan, List.length_append, length_tokensFrom, List.length_singleton]
    rw [hlength, steps_to_end _ rfl, spellings_lexemes, Problem.foldl_handTo,
      filterMap_problem?_eventsFrom, map_moved_tokens_scan, map_moved_problems_scan,
      hstands.position_add]
  upToEnd := ⟨_, _, tokens_scan lx.rest, rfl, fun _ => kind_ne_endOfText_of_mem⟩

/-- Behind any number of steps a scan goes on as if it started there. -/
theorem steps_go_on (source : Text) (n : Nat) {σ : Type} (report : σ → Problem → σ) (heard : σ) :
    ∃ rest, GoesOnAs source rest
      ((ofText source).steps (Problem.handTo report) n heard).after := by
  rw [after_steps]
  exact ⟨_, (Reachable.start.advance n).goesOnAs⟩

end Lexer
end ScriptScan
