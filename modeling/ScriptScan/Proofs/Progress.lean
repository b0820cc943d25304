import ScriptScan.Session
import ScriptScan.Proofs.ShownProblems

/-! # Scans go forward and end

A lexer has passed over a start of its text, and its position counts the bytes of that start. It
stays so whatever way it is asked for tokens (`StandsIn.pull`), hence however often
(`Reachable.exists_standsIn`). So it stands between two characters, and what it cuts out of the text
on the way over the characters ahead is there. A step takes at least one of them, or answers with
the end token at the end of the text; hence the positions of tokens ascend, and a scan is over
after as many steps as there are characters, and one more for the end token. -/

namespace ScriptScan
open Lexeme
open Text (byteLength slice?)

/-- The byte position lies between two characters or at an end of the text. -/
def Text.IsBoundary (t : Text) (position : Nat) : Prop :=
  ∃ before after, t = before ++ after ∧ byteLength before = position

namespace Lexer

/-- What a lexer over the text comes to by being asked for tokens, any number of times and in any
of the ways there are. -/
inductive Reachable (source : Text) : Lexer → Prop
  | start : Reachable source (ofText source)
  | pull {σ : Type} {lx : Lexer} (hear : Listener σ) (how : Pull) (heard : σ) :
    Reachable source lx → Reachable source (lx.pull hear how heard).after

/-- The lexer has passed over a start of the text, and the rest of the text is ahead. -/
structure StandsIn (source passed : Text) (lx : Lexer) : Prop where
  source_eq : source = passed ++ lx.rest
  position_eq : lx.position = byteLength passed

/-! ## Where lexers stand -/

theorem exists_after_pull_eq_skip {σ : Type} (hear : Listener σ) (how : Pull) (lx : Lexer)
    (heard : σ) : ∃ n, (lx.pull hear how heard).after = lx.skip n := by
  cases how with
  | step => exact ⟨1, after_step lx⟩
  | next => exact ⟨1, by rw [Lexer.pull, take_eq]⟩
  | take count => exact ⟨count, by rw [Lexer.pull, take_eq]⟩
  | rest => exact ⟨lx.rest.length, by rw [Lexer.pull, takeRest, take_eq]⟩
  | look => exact ⟨0, lx.skip_zero.symm⟩

variable {source passed : Text} {lx : Lexer}

theorem StandsIn.skip (h : StandsIn source passed lx) (n : Nat) :
    StandsIn source (passed ++ spellings ((lexemes lx.rest).take n)) (lx.skip n) where
  source_eq := by
    rw [Lexer.skip, List.append_assoc, ← spellings_append, List.take_append_drop,
      spellings_lexemes]
    exact h.source_eq
  position_eq := by
    rw [Lexer.skip, Text.byteLength_append, h.position_eq]

/-- No way of asking for tokens moves a lexer off the text. -/
theorem StandsIn.pull (h : StandsIn source passed lx) {σ : Type} (hear : Listener σ) (how : Pull)
    (heard : σ) : ∃ passed', StandsIn source passed' (lx.pull hear how heard).after := by
  obtain ⟨n, hn⟩ := exists_after_pull_eq_skip hear how lx heard
  rw [hn]
  exact ⟨_, h.skip n⟩

theorem Reachable.exists_standsIn (h : Reachable source lx) :
    ∃ passed, StandsIn source passed lx := by
  induction h with
  | start => exact ⟨[], rfl, rfl⟩
  | pull hear how heard _ ih =>
    obtain ⟨passed, hp⟩ := ih
    exact hp.pull hear how heard

theorem Reachable.advance (h : Reachable source lx) (n : Nat) :
    Reachable source (lx.advance n) := by
  induction n generalizing lx with
  | zero => exact h
  | succ n ih => exact ih (h.pull (fun heard _ => heard) .step ())

/-- A stretch of the characters ahead can be cut out of the text. -/
theorem StandsIn.slice?_eq (h : StandsIn source passed lx) {u v w : Text}
    (hr : lx.rest = u ++ v ++ w) :
    slice? source (lx.position + byteLength u) (lx.position + byteLength u + byteLength v) =
      some v := by
  refine Text.slice?_eq_some_iff.mpr ⟨passed ++ u, w, ?_, ?_, rfl⟩
  · rw [h.source_eq, hr]
    simp only [List.append_assoc]
  · rw [Text.byteLength_append, h.position_eq]

theorem StandsIn.position_add (h : StandsIn source passed lx) :
    lx.position + byteLength lx.rest = byteLength source := by
  rw [h.position_eq, ← Text.byteLength_append, ← h.source_eq]

theorem StandsIn.isBoundary (h : StandsIn source passed lx) :
    Text.IsBoundary source lx.position :=
  ⟨passed, lx.rest, h.source_eq, h.position_eq.symm⟩

/-! ## What a step does -/

/-- A step at the end: it answers with the end token and goes nowhere. -/
structure Rests (source : Text) (lx : Lexer) : Prop where
  token_eq : lx.step.token = .endAt (byteLength source)
  position_eq : lx.position = byteLength source
  after_eq : lx.step.after = lx

/-- A step over a token: the lexer goes forward, and the token starts on the way. -/
structure Advances (lx : Lexer) : Prop where
  kind_ne : lx.step.token.kind ≠ .endOfText
  position_lt : lx.position < lx.step.after.position
  le_position_token : lx.position ≤ lx.step.token.position
  position_token_lt : lx.step.token.position < lx.step.after.position

theorem StandsIn.rests (h : StandsIn source passed lx) (hl : lexemes lx.rest = []) :
    Rests source lx := by
  have hr : lx.rest = [] := by rw [← spellings_lexemes lx.rest, hl, spellings_nil]
  have hp : lx.position = byteLength source := by
    rw [← h.position_add, hr, Text.byteLength_nil, Nat.add_zero]
  exact ⟨by rw [step_of_nil hl, hp], hp, by rw [step_of_nil hl]⟩

theorem position_skip_one {l : Lexeme} {ls : List Lexeme} (hl : lexemes lx.rest = l :: ls) :
    (lx.skip 1).position = lx.position + byteLength l.spelling := by
  rw [Lexer.skip, hl, List.take_succ_cons, List.take_zero, spellings_cons, spellings_nil,
    List.append_nil]

theorem advances_of_cons {l : Lexeme} {ls : List Lexeme} (hl : lexemes lx.rest = l :: ls) :
    Advances lx := by
  have hw : l.WellFormed := (fitBefore_lexemes lx.rest).wellFormed l (by rw [hl]; simp)
  have hlead := lead_lt hw
  have htoken : (l.tokenAt lx.position).position = lx.position + l.lead := rfl
  constructor
  all_goals simp only [step_of_cons hl, position_skip_one hl, htoken]
  · exact l.kind_ne_endOfText
  all_goals omega

/-- A step cuts its token out of the text, from the token's position to where the lexer goes. -/
theorem StandsIn.slice?_token (h : StandsIn source passed lx) :
    slice? source lx.step.token.position lx.step.after.position = some lx.step.token.written := by
  cases hl : lexemes lx.rest with
  | nil =>
    have hrest := h.rests hl
    rw [hrest.token_eq, hrest.after_eq, hrest.position_eq]
    exact Text.slice?_eq_some_iff.mpr ⟨source, [], by simp [Token.written, Token.endAt], rfl, rfl⟩
  | cons l ls =>
    -- the token starts behind what the lexeme discards and holds all the rest of it
    have hr : lx.rest = l.discarded ++ (l.tokenAt lx.position).written ++ spellings ls := by
      rw [discarded_append_written, ← spellings_cons, ← hl, spellings_lexemes]
    have hposition : lx.position + l.lead = (l.tokenAt lx.position).position := rfl
    have hs := h.slice?_eq hr
    rw [← lead_eq, hposition, position_add_written, ← position_skip_one hl] at hs
    rwa [step_of_cons hl]

/-- Where a lexer stands and what its next step does. -/
structure Proceeds (source : Text) (lx : Lexer) : Prop where
  position_le : lx.position ≤ byteLength source
  isBoundary : Text.IsBoundary source lx.position
  /-- What is ahead is what the text holds from the position on. -/
  ahead : slice? source lx.position (byteLength source) = some lx.rest
  /-- Wherever rules come past on the way over the characters ahead, they can look on from there
  and cut out what they passed over. -/
  slice : ∀ u v w, lx.rest = u ++ v ++ w →
    slice? source (lx.position + byteLength u) (lx.position + byteLength u + byteLength v) = some v
  step : Rests source lx ∨ Advances lx
  token : slice? source lx.step.token.position lx.step.after.position = some lx.step.token.written

theorem Reachable.proceeds (h : Reachable source lx) : Proceeds source lx := by
  obtain ⟨passed, hp⟩ := h.exists_standsIn
  have hsum := hp.position_add
  refine ⟨by omega, hp.isBoundary, ?_, fun _ _ _ => hp.slice?_eq, ?_, hp.slice?_token⟩
  · have hs := hp.slice?_eq (u := []) (v := lx.rest) (w := []) (by simp)
    rwa [Text.byteLength_nil, Nat.add_zero, hsum] at hs
  · cases hl : lexemes lx.rest with
    | nil => exact .inl (hp.rests hl)
    | cons l ls => exact .inr (advances_of_cons hl)

/-- What the text holds from the position of a lexer on is what is ahead of it. -/
theorem Reachable.rest_eq (h : Reachable source lx) {t : Text}
    (ht : slice? source lx.position (byteLength source) = some t) : lx.rest = t := by
  rw [h.proceeds.ahead] at ht
  exact Option.some.inj ht

end Lexer

/-! ## Whole scans -/

variable {source : Text}

/-- A token before the end token starts at a character of the text. -/
theorem isBoundary_position {t : Token} (h : t ∈ (scan source).tokens.dropLast) :
    t.position < byteLength source ∧ Text.IsBoundary source t.position := by
  rw [dropLast_tokens_scan, tokensFrom_eq_map_answer] at h
  obtain ⟨i, hi, rfl⟩ := List.mem_map.mp h
  rw [List.mem_range] at hi
  refine ⟨?_, ?_⟩
  · calc (answer source i).position
        < reached source (i + 1) := position_answer_lt_reached hi
      _ ≤ reached source (lexemes source).length := reached_mono source hi
      _ = byteLength source := reached_of_length_le (Nat.le_refl _)
  · obtain ⟨before, after, hs, hb, -⟩ :=
      Text.slice?_eq_some_iff.mp (slice?_answer (List.getElem?_eq_getElem hi))
    exact ⟨before, _, hs.trans (List.append_assoc _ _ _), hb⟩

/-- A scan is over after `n` steps over tokens and the step to the end token. -/
structure EndsAfter (source : Text) (n : Nat) : Prop where
  kind_ne : ∀ i < n, (answer source i).kind ≠ .endOfText
  answer_end : answer source n = .endAt (byteLength source)
  /-- The tokens, whatever listens, are the answers up to there. -/
  tokens_eq : ∀ {σ : Type} (hear : Listener σ) (heard : σ),
    (tokenize hear source heard).1 = (List.range (n + 1)).map (answer source)

theorem endsAfter_length_lexemes (source : Text) : EndsAfter source (lexemes source).length where
  kind_ne i hi := (kind_answer_ne_iff source i).mpr hi
  answer_end := answer_of_length_le (Nat.le_refl _)
  tokens_eq hear heard := by
    rw [tokenize_eq, ← tokens_scan, tokens_eq_map_answer]

/-- A text is scanned from its start to its end, one token after the other. -/
structure ScannedThrough (source : Text) : Prop where
  proceeds : ∀ lx, Lexer.Reachable source lx → lx.Proceeds source
  ascending : (scan source).tokens.Pairwise fun t u => t.position < u.position
  last : (scan source).tokens.getLast? = some (.endAt (byteLength source))
  starts : ∀ t ∈ (scan source).tokens.dropLast,
    t.position < byteLength source ∧ Text.IsBoundary source t.position
  ends : ∃ n ≤ source.length, EndsAfter source n
  length_tokens_le : (scan source).tokens.length ≤ source.length + 1

theorem scanned_through (source : Text) : ScannedThrough source where
  proceeds _ h := h.proceeds
  ascending := pairwise_position_tokens source
  last := by rw [tokens_scan, List.getLast?_concat]
  starts _ := isBoundary_position
  ends := ⟨_, length_lexemes_le source, endsAfter_length_lexemes source⟩
  length_tokens_le := by
    rw [tokens_eq_map_answer, List.length_map, List.length_range]
    exact Nat.succ_le_succ (length_lexemes_le source)

end ScriptScan
