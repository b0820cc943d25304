import ScriptScan.Session
import ScriptScan.Proofs.Lexemes

/-! # Scans are lists of placed lexemes

What a lexer hands out, tells and leaves after any number of steps is read off the lexemes of the
text ahead of it. A scan follows: its tokens and problems are those of the lexemes of its text. -/

namespace ScriptScan
open Lexeme
open Text (byteLength)

/-! ## What lexemes give -/

/-- The token that stands for the end of a text of so many bytes. -/
def Token.endAt (position : Nat) : Token := { kind := .endOfText, position, text := [] }

/-- The problem that an event reports. -/
def Event.problem? : Event → Option Problem
  | .reported problem => some problem
  | _ => none

namespace Lexeme

/-- The problem of a lexeme at a byte position: only a number without a value has one. -/
def problemAt? (l : Lexeme) (position : Nat) : Option Problem :=
  match l, l.value? with
  | number digits, none => some { cause := .numberTooLarge digits, position }
  | _, _ => none

theorem filterMap_problem?_eventsAt (l : Lexeme) (position : Nat) :
    (l.eventsAt position).filterMap Event.problem? = (l.problemAt? position).toList := by
  cases l with
  | number digits =>
    simp only [eventsAt, problemAt?]
    cases (number digits).value? <;> rfl
  | blank | symbol | word | quoted | cutOff | openQuote | stray => rfl

/-- The line end of a string that is cut off tells so. -/
theorem badCause_cutOff {lineEnd : Char} (h : Text.isLineEnd lineEnd = true) (content : Text) :
    Token.badCause (cutOff content lineEnd).text = .unterminatedString := by
  have hl : lineEnd = '\n' ∨ lineEnd = '\r' := by simpa [Text.isLineEnd] using h
  rcases hl with rfl | rfl <;> rfl

theorem badCause_stray {c : Char} (hw : (stray c).WellFormed) :
    Token.badCause (stray c).text = .unrecognised [c] := by
  obtain ⟨hb, -, hq, -⟩ := hw
  have hn : c ≠ '\n' := fun hn => absurd hb (by rw [hn]; decide)
  have hr : c ≠ '\r' := fun hr => absurd hb (by rw [hr]; decide)
  simp [Token.badCause, Lexeme.text, hn, hr, hq]

/-- The tokens of lexemes, the first of which starts at `position`. -/
def tokensFrom (position : Nat) (ls : List Lexeme) : List Token :=
  (placed position ls).map fun x => x.2.tokenAt x.1

/-- What a scan tells about lexemes, the first of which starts at `position`. -/
def eventsFrom (position : Nat) (ls : List Lexeme) : List Event :=
  (placed position ls).flatMap fun x => x.2.eventsAt x.1

/-- The problems of lexemes, the first of which starts at `position`. -/
def problemsFrom (position : Nat) (ls : List Lexeme) : List Problem :=
  (placed position ls).filterMap fun x => x.2.problemAt? x.1

@[simp] theorem length_tokensFrom (position : Nat) (ls : List Lexeme) :
    (tokensFrom position ls).length = ls.length := by
  simp [tokensFrom, length_placed]

theorem tokensFrom_append (position : Nat) (ls ms : List Lexeme) :
    tokensFrom position (ls ++ ms) =
      tokensFrom position ls ++ tokensFrom (position + byteLength (spellings ls)) ms := by
  simp [tokensFrom, placed_append]

theorem tokensFrom_take (position n : Nat) (ls : List Lexeme) :
    tokensFrom position (ls.take n) = (tokensFrom position ls).take n := by
  induction ls generalizing position n with
  | nil => simp [tokensFrom, placed]
  | cons l ls ih =>
    cases n with
    | zero => rfl
    | succ n => exact congrArg (l.tokenAt position :: ·) (ih (position + byteLength l.spelling) n)

theorem tokensFrom_drop (position n : Nat) (ls : List Lexeme) :
    tokensFrom (position + byteLength (spellings (ls.take n))) (ls.drop n) =
      (tokensFrom position ls).drop n := by
  induction ls generalizing position n with
  | nil => simp [tokensFrom, placed]
  | cons l ls ih =>
    cases n with
    | zero => rfl
    | succ n =>
      rw [List.take_succ_cons, spellings_cons, Text.byteLength_append, ← Nat.add_assoc]
      exact ih (position + byteLength l.spelling) n

theorem problemsFrom_append (position : Nat) (ls ms : List Lexeme) :
    problemsFrom position (ls ++ ms) =
      problemsFrom position ls ++ problemsFrom (position + byteLength (spellings ls)) ms := by
  simp [problemsFrom, placed_append]

theorem getElem?_tokensFrom {position i : Nat} {ls : List Lexeme} {l : Lexeme}
    (h : ls[i]? = some l) :
    (tokensFrom position ls)[i]? =
      some (l.tokenAt (position + byteLength (spellings (ls.take i)))) := by
  rw [tokensFrom, List.getElem?_map, getElem?_placed h]
  rfl

/-- Every token of the lexemes is the token of one of them. -/
theorem mem_tokensFrom {position : Nat} {ls : List Lexeme} {t : Token}
    (h : t ∈ tokensFrom position ls) : ∃ l ∈ ls, ∃ p, t = l.tokenAt p := by
  obtain ⟨x, hx, rfl⟩ := List.mem_map.mp h
  refine ⟨x.2, ?_, x.1, rfl⟩
  rw [← map_snd_placed position ls]
  exact List.mem_map_of_mem hx

/-- Every lexeme has its token. -/
theorem exists_mem_tokensFrom (position : Nat) {ls : List Lexeme} {l : Lexeme} (h : l ∈ ls) :
    ∃ p, l.tokenAt p ∈ tokensFrom position ls := by
  rw [← map_snd_placed position ls] at h
  obtain ⟨x, hx, rfl⟩ := List.mem_map.mp h
  exact ⟨x.1, List.mem_map_of_mem hx⟩

theorem filterMap_problem?_eventsFrom (position : Nat) (ls : List Lexeme) :
    (eventsFrom position ls).filterMap Event.problem? = problemsFrom position ls := by
  simp only [eventsFrom, problemsFrom, List.filterMap_flatMap, filterMap_problem?_eventsAt]
  induction placed position ls with
  | nil => rfl
  | cons x xs ih =>
    rw [List.flatMap_cons, List.filterMap_cons, ih]
    cases x.2.problemAt? x.1 <;> rfl

end Lexeme

theorem Problem.toList_foldl_collect (events : List Event) (problems : Array Problem) :
    (events.foldl Problem.collect problems).toList =
      problems.toList ++ events.filterMap Event.problem? := by
  induction events generalizing problems with
  | nil => simp
  | cons e events ih =>
    rw [List.foldl_cons, ih]
    cases e <;> simp [Problem.collect, Event.problem?, List.filterMap_cons]

/-! ## Lexers -/

namespace Lexer

/-- The lexer after `n` steps. -/
def advance : Nat → Lexer → Lexer
  | 0, lx => lx
  | n + 1, lx => advance n lx.step.after

/-- The answers to `n` steps, one after the other. -/
def steps {σ : Type} (hear : Listener σ) : Nat → Lexer → σ → Taken σ
  | 0, lx, heard => ⟨[], lx, heard⟩
  | n + 1, lx, heard =>
    let first := lx.pull hear .step heard
    let others := steps hear n first.after first.heard
    { others with tokens := first.tokens ++ others.tokens }

theorem after_steps {σ : Type} (hear : Listener σ) (n : Nat) (lx : Lexer) (heard : σ) :
    (lx.steps hear n heard).after = lx.advance n := by
  induction n generalizing lx heard with
  | zero => rfl
  | succ n ih => exact ih lx.step.after _

/-- The lexer behind the first `n` of the lexemes ahead. -/
def skip (n : Nat) (lx : Lexer) : Lexer :=
  { rest := spellings ((lexemes lx.rest).drop n)
    position := lx.position + byteLength (spellings ((lexemes lx.rest).take n)) }

theorem skip_zero (lx : Lexer) : lx.skip 0 = lx := by
  simp [skip, spellings_lexemes]

theorem next?_of_nil {lx : Lexer} (h : lexemes lx.rest = []) : lx.next? = none := by
  have hr := spellings_lexemes lx.rest
  rw [h, spellings_nil] at hr
  rw [next?, ← hr]

theorem next?_of_cons {lx : Lexer} {l : Lexeme} {ls : List Lexeme}
    (h : lexemes lx.rest = l :: ls) :
    lx.next? = some
      { token := l.tokenAt lx.position, events := l.eventsAt lx.position, after := lx.skip 1 } := by
  obtain ⟨rest, position⟩ := lx
  cases rest with
  | nil => simp at h
  | cons c rest =>
    simp only [skip, h]
    rw [lexemes_cons] at h
    obtain ⟨rfl, rfl⟩ := List.cons.inj h
    simp [next?, spellings_lexemes]

/-- Behind a lexeme the scan goes on with the lexemes after it. -/
theorem lexemes_skip (n : Nat) (lx : Lexer) :
    lexemes (lx.skip n).rest = (lexemes lx.rest).drop n := by
  have h := fitBefore_lexemes lx.rest
  rw [← List.take_append_drop n (lexemes lx.rest), fitBefore_append] at h
  exact lexemes_eq_iff.mpr ⟨rfl, h.2⟩

theorem skip_skip (m n : Nat) (lx : Lexer) : (lx.skip m).skip n = lx.skip (m + n) := by
  have ht : (lexemes lx.rest).take (m + n) =
      (lexemes lx.rest).take m ++ ((lexemes lx.rest).drop m).take n := by
    rw [List.take_add]
  rw [skip, lexemes_skip, List.drop_drop]
  simp only [skip, ht, spellings_append, Text.byteLength_append, Nat.add_assoc]

theorem skip_min (n : Nat) (lx : Lexer) :
    lx.skip (min n (lexemes lx.rest).length) = lx.skip n := by
  rcases Nat.le_total n (lexemes lx.rest).length with h | h
  · rw [Nat.min_eq_left h]
  · rw [Nat.min_eq_right h, skip, skip, List.drop_length, List.take_length,
      List.drop_of_length_le h, List.take_of_length_le h]

theorem step_of_nil {lx : Lexer} (h : lexemes lx.rest = []) :
    lx.step = { token := .endAt lx.position, events := [], after := lx } := by
  rw [step, next?_of_nil h]
  rfl

theorem step_of_cons {lx : Lexer} {l : Lexeme} {ls : List Lexeme}
    (h : lexemes lx.rest = l :: ls) :
    lx.step =
      { token := l.tokenAt lx.position, events := l.eventsAt lx.position, after := lx.skip 1 } := by
  rw [step, next?_of_cons h]
  rfl

theorem skip_of_nil {lx : Lexer} (h : lexemes lx.rest = []) (n : Nat) : lx.skip n = lx := by
  have hr := spellings_lexemes lx.rest
  rw [h] at hr
  obtain ⟨rest, position⟩ := lx
  simp_all [skip]

theorem after_step (lx : Lexer) : lx.step.after = lx.skip 1 := by
  cases h : lexemes lx.rest with
  | nil => rw [step_of_nil h, skip_of_nil h]
  | cons l ls => rw [step_of_cons h]

theorem advance_eq_skip (n : Nat) (lx : Lexer) : lx.advance n = lx.skip n := by
  induction n generalizing lx with
  | zero => rw [advance, skip_zero]
  | succ n ih => rw [advance, ih, after_step, skip_skip, Nat.add_comm]

variable {σ : Type} (hear : Listener σ)

theorem take_eq (n : Nat) (lx : Lexer) (heard : σ) :
    lx.take hear n heard =
      { tokens := tokensFrom lx.position ((lexemes lx.rest).take n)
        after := lx.skip n
        heard := (eventsFrom lx.position ((lexemes lx.rest).take n)).foldl hear heard } := by
  induction n generalizing lx heard with
  | zero => simp [skip_zero, tokensFrom, eventsFrom, placed]
  | succ n ih =>
    cases h : lexemes lx.rest with
    | nil =>
      rw [take_succ_of_none hear (next?_of_nil h), skip_of_nil h]
      simp [tokensFrom, eventsFrom, placed]
    | cons l ls =>
      rw [take_succ_of_some hear (next?_of_cons h), ih, lexemes_skip, skip_skip, h]
      simp [tokensFrom, eventsFrom, placed, skip, h, Nat.add_comm]

theorem takeRest_eq (lx : Lexer) (heard : σ) :
    lx.takeRest hear heard =
      { tokens := tokensFrom lx.position (lexemes lx.rest)
        after := { rest := [], position := lx.position + byteLength lx.rest }
        heard := (eventsFrom lx.position (lexemes lx.rest)).foldl hear heard } := by
  have hn := length_lexemes_le lx.rest
  rw [takeRest, take_eq, List.take_of_length_le hn, skip, List.drop_of_length_le hn,
    List.take_of_length_le hn, spellings_lexemes, spellings_nil]

end Lexer

/-! ## Scans -/

theorem tokenize_eq {σ : Type} (hear : Listener σ) (source : Text) (heard : σ) :
    tokenize hear source heard =
      (tokensFrom 0 (lexemes source) ++ [.endAt (byteLength source)],
        (eventsFrom 0 (lexemes source)).foldl hear (hear heard (Lexer.opening source))) := by
  simp only [tokenize, Lexer.takeRest_eq, Lexer.ofText, Lexer.endToken, Nat.zero_add]
  rfl

theorem tokens_scan (source : Text) :
    (scan source).tokens = tokensFrom 0 (lexemes source) ++ [.endAt (byteLength source)] := by
  simp only [scan, tokenize_eq]

theorem dropLast_tokens_scan (source : Text) :
    (scan source).tokens.dropLast = tokensFrom 0 (lexemes source) := by
  rw [tokens_scan, List.dropLast_concat]

theorem problems_scan (source : Text) :
    (scan source).problems = problemsFrom 0 (lexemes source) := by
  simp only [scan, tokenize_eq, Problem.toList_foldl_collect, filterMap_problem?_eventsFrom]
  rfl

/-! ## Step by step -/

/-- The byte position that a scan has reached after `i` steps. -/
def reached (source : Text) (i : Nat) : Nat := ((Lexer.ofText source).advance i).position

/-- The token of the step after `i` steps. -/
def answer (source : Text) (i : Nat) : Token := ((Lexer.ofText source).advance i).step.token

variable {source : Text} {i : Nat} {l : Lexeme}

theorem reached_eq (source : Text) (i : Nat) :
    reached source i = byteLength (spellings ((lexemes source).take i)) := by
  simp [reached, Lexer.advance_eq_skip, Lexer.skip, Lexer.ofText]

theorem reached_zero (source : Text) : reached source 0 = 0 := rfl

theorem reached_of_length_le (h : (lexemes source).length ≤ i) :
    reached source i = byteLength source := by
  rw [reached_eq, List.take_of_length_le h, spellings_lexemes]

/-- The lexemes before, at and after an index spell the text. -/
theorem source_eq_of_getElem? (h : (lexemes source)[i]? = some l) :
    source = spellings ((lexemes source).take i) ++ l.spelling ++
      spellings ((lexemes source).drop (i + 1)) := by
  obtain ⟨hi, rfl⟩ := List.getElem?_eq_some_iff.mp h
  rw [List.append_assoc, ← spellings_cons, ← List.drop_eq_getElem_cons hi, ← spellings_append,
    List.take_append_drop, spellings_lexemes]

theorem reached_succ (h : (lexemes source)[i]? = some l) :
    reached source (i + 1) = reached source i + byteLength l.spelling := by
  rw [reached_eq, reached_eq, List.take_add_one, h, spellings_append, Text.byteLength_append]
  simp

theorem answer_of_getElem? (h : (lexemes source)[i]? = some l) :
    answer source i = l.tokenAt (reached source i) := by
  obtain ⟨hi, rfl⟩ := List.getElem?_eq_some_iff.mp h
  have hl : lexemes ((Lexer.ofText source).skip i).rest =
      (lexemes source)[i] :: (lexemes source).drop (i + 1) := by
    rw [Lexer.lexemes_skip]
    exact List.drop_eq_getElem_cons hi
  rw [answer, reached, Lexer.advance_eq_skip, Lexer.step_of_cons hl]

theorem answer_of_length_le (h : (lexemes source).length ≤ i) :
    answer source i = .endAt (byteLength source) := by
  have hl : lexemes ((Lexer.ofText source).skip i).rest = [] := by
    rw [Lexer.lexemes_skip]
    exact List.drop_of_length_le h
  have hr : ((Lexer.ofText source).skip i).position = byteLength source := by
    rw [← Lexer.advance_eq_skip]
    exact reached_of_length_le h
  rw [answer, Lexer.advance_eq_skip, Lexer.step_of_nil hl, hr]

theorem Lexeme.kind_ne_endOfText (l : Lexeme) : l.kind ≠ .endOfText := by
  unfold kind
  repeat' split
  all_goals simp

theorem Lexeme.kind_ne_endOfText_of_mem {position : Nat} {ls : List Lexeme} {t : Token}
    (h : t ∈ tokensFrom position ls) : t.kind ≠ .endOfText := by
  obtain ⟨l, -, p, rfl⟩ := mem_tokensFrom h
  exact l.kind_ne_endOfText

/-- The kind tells by which rule a lexeme was taken. -/
theorem Lexeme.inv_kind (l : Lexeme) :
    match l.kind with
    | .number => ∃ digits, l = number digits
    | .whitespace => ∃ run, l = blank run
    | .symbol s => l = symbol s
    | .keyword _ | .identifier => ∃ text, l = word text
    | .string => ∃ content, l = quoted content
    | .bad => (∃ content lineEnd, l = cutOff content lineEnd) ∨ l = openQuote ∨ ∃ c, l = stray c
    | .endOfText | .letter => False := by
  cases l with
  | word text => rcases kind_word text with h | ⟨k, h⟩ <;> simp [h]
  | number | blank | symbol | quoted | cutOff | openQuote | stray => simp [kind]

theorem Lexeme.eq_number_of_kind {l : Lexeme} (h : l.kind = .number) :
    ∃ digits, l = number digits := by
  have hl := l.inv_kind
  rwa [h] at hl

theorem Lexeme.eq_blank_of_kind {l : Lexeme} (h : l.kind = .whitespace) : ∃ run, l = blank run := by
  have hl := l.inv_kind
  rwa [h] at hl

theorem Lexeme.eq_symbol_of_kind {l : Lexeme} {s : Symbol} (h : l.kind = .symbol s) :
    l = symbol s := by
  have hl := l.inv_kind
  rwa [h] at hl

/-- Only the end token has the kind of the end. -/
theorem kind_answer_ne_iff (source : Text) (i : Nat) :
    (answer source i).kind ≠ .endOfText ↔ i < (lexemes source).length := by
  constructor
  · intro h
    by_contra hi
    exact h (by rw [answer_of_length_le (Nat.le_of_not_lt hi)]; rfl)
  · intro hi
    rw [answer_of_getElem? (List.getElem?_eq_getElem hi)]
    exact kind_ne_endOfText _

/-- Lexemes at their positions are the steps of the scan, with where each of them starts. -/
theorem map_placed_lexemes (source : Text) :
    (placed 0 (lexemes source)).map (fun x => (x.1, x.2.tokenAt x.1)) =
      (List.range (lexemes source).length).map fun i => (reached source i, answer source i) := by
  apply List.ext_getElem?
  intro i
  rcases Nat.lt_or_ge i (lexemes source).length with hi | hi
  · have hl := List.getElem?_eq_getElem hi
    rw [List.getElem?_map, getElem?_placed hl, List.getElem?_map, List.getElem?_range hi,
      Option.map_some, Option.map_some, answer_of_getElem? hl, reached_eq, Nat.zero_add]
  · rw [List.getElem?_eq_none (by simpa [length_placed] using hi),
      List.getElem?_eq_none (by simpa using hi)]

theorem tokensFrom_eq_map_answer (source : Text) :
    tokensFrom 0 (lexemes source) =
      (List.range (lexemes source).length).map (answer source) := by
  have h := congrArg (List.map Prod.snd) (map_placed_lexemes source)
  rw [List.map_map, List.map_map] at h
  exact h

theorem tokens_eq_map_answer (source : Text) :
    (scan source).tokens = (List.range ((lexemes source).length + 1)).map (answer source) := by
  rw [tokens_scan, tokensFrom_eq_map_answer, List.range_succ, List.map_append, List.map_singleton,
    answer_of_length_le (Nat.le_refl _)]

/-- A token of the scan comes from one of its steps, unless it is the end token. -/
theorem exists_step_of_mem_tokens {source : Text} {t : Token} (h : t ∈ (scan source).tokens) :
    (∃ (i : Nat) (l : Lexeme), (lexemes source)[i]? = some l ∧ t = l.tokenAt (reached source i)) ∨
      t = .endAt (byteLength source) := by
  rw [tokens_eq_map_answer] at h
  obtain ⟨i, hi, rfl⟩ := List.mem_map.mp h
  rcases Nat.lt_or_eq_of_le (Nat.le_of_lt_succ (List.mem_range.mp hi)) with hi | rfl
  · have hl := List.getElem?_eq_getElem hi
    exact .inl ⟨i, _, hl, answer_of_getElem? hl⟩
  · exact .inr (answer_of_length_le (Nat.le_refl _))

theorem mem_tokens_of_getElem? (h : (lexemes source)[i]? = some l) :
    l.tokenAt (reached source i) ∈ (scan source).tokens := by
  have hi := (List.getElem?_eq_some_iff.mp h).1
  rw [tokens_eq_map_answer, ← answer_of_getElem? h]
  exact List.mem_map_of_mem (List.mem_range.mpr (by omega))

end ScriptScan
