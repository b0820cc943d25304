import ScriptScan.Proofs.Progress

/-! # Bad tokens

A token is bad for one of four faults, each told from the text at the cursor. Three of them leave
the character at the cursor as a token of its own. The fourth is a string that does not close on
its line; its token holds the line end or the quote, and nothing else leaves such a token behind.
So the problem of a bad token, though told from the token's text alone, tells the fault. -/

namespace ScriptScan
open Lexeme
open Text (byteLength slice? isBlank isLetter isWordStart startsWith)

/-- What is wrong at a cursor. -/
inductive Fault
  /-- A digit whose run of digits goes on into something other than whitespace. -/
  | digit
  /-- One half of a symbol of two characters, without the other. -/
  | half
  /-- A quote whose string does not close on its line. -/
  | unclosed
  /-- A character that starts nothing. -/
  | foreign

/-- The fault is found at the character `c`, with the text `ahead` behind it. -/
def Fault.Holds (c : Char) (ahead : Text) : Fault → Prop
  | digit => c.isDigit = true ∧ ∃ d, ahead.find? (!Char.isDigit ·) = some d ∧ isBlank d = false
  | half => (c = '&' ∨ c = '|') ∧ ahead.head? ≠ some c
  | unclosed => c = '"' ∧ ahead.find? (fun d => d = '"' ∨ d = '\n' ∨ d = '\r') ≠ some '"'
  | foreign => isBlank c = false ∧ c.isDigit = false ∧ isLetter c = false ∧ c ≠ '_' ∧ c ≠ '"' ∧
      c ∉ ['+', '-', '*', '/', '(', ')', '&', '|', '=', '!']

namespace Lexeme

/-! ## Characters that stay alone -/

theorem endsNumber_eq_false_iff {t : Text} :
    endsNumber (t.dropWhile Char.isDigit) = false ↔
      ∃ d, t.find? (!Char.isDigit ·) = some d ∧ isBlank d = false := by
  simp only [List.find?_eq_head?_dropWhile_not, Bool.not_not]
  cases t.dropWhile Char.isDigit <;> simp [endsNumber]

theorem startsWith_eq_false_iff {c : Char} {t : Text} :
    startsWith (· == c) t = false ↔ t.head? ≠ some c := by
  cases t <;> simp

/-- A character stays alone for just the faults other than an unclosed string. -/
theorem stray_fits_iff {c : Char} {ahead : Text} :
    (stray c).Fits ahead ↔
      Fault.digit.Holds c ahead ∨ Fault.half.Holds c ahead ∨ Fault.foreign.Holds c ahead := by
  constructor
  · rintro ⟨⟨hb, hw, hq, hs⟩, hd, hp⟩
    rw [isWordStart, Bool.or_eq_false_iff] at hw
    simp only [Symbol.singles, List.mem_cons, not_or] at hs
    cases hc : c.isDigit with
    | true => exact .inl ⟨hc, endsNumber_eq_false_iff.mp (hd hc)⟩
    | false =>
      by_cases hm : c = '&' ∨ c = '|'
      · exact .inr (.inl ⟨hm, startsWith_eq_false_iff.mp (hp hm)⟩)
      · rw [not_or] at hm
        exact .inr (.inr ⟨hb, hc, hw.1, by simpa using hw.2, hq, by simp [hs, hm]⟩)
  · rintro (⟨hc, hrun⟩ | ⟨hc, hhead⟩ | ⟨hb, hc, hl, hu, hq, hs⟩)
    · have hfit := readDigits_fits hc ahead
      rwa [readDigits, endsNumber_eq_false_iff.mpr hrun] at hfit
    · have hnext := startsWith_eq_false_iff.mpr hhead
      refine ⟨?_, ?_, fun _ => hnext⟩
      · rcases hc with rfl | rfl <;> exact ⟨by decide, by decide, by decide, by decide⟩
      · intro hd
        rcases hc with rfl | rfl <;> cases hd
    · simp only [List.mem_cons, not_or] at hs
      refine ⟨⟨hb, by simp [isWordStart, hl, hu], hq, by simp [Symbol.singles, hs]⟩, ?_, ?_⟩
      · intro hd
        rw [hc] at hd
        cases hd
      · intro hm
        simp [hs] at hm

theorem read_eq_stray_iff {c : Char} {ahead : Text} :
    (∃ d, (read c ahead).1 = stray d) ↔
      Fault.digit.Holds c ahead ∨ Fault.half.Holds c ahead ∨ Fault.foreign.Holds c ahead := by
  rw [← stray_fits_iff]
  constructor
  · rintro ⟨d, hd⟩
    have hfit := read_fits c ahead
    have hs := spelling_read c ahead
    rw [hd] at hfit hs
    obtain ⟨rfl, hrest⟩ := List.cons.inj hs
    rwa [← show (read d ahead).2 = ahead from hrest]
  · intro h
    exact ⟨c, by rw [read_of_stray h]⟩

/-! ## Strings that do not close -/

theorem settlesString_eq_decide :
    settlesString = fun c => decide (c = '"' ∨ c = '\n' ∨ c = '\r') := by
  funext c
  simp [settlesString, Text.isLineEnd, Bool.beq_eq_decide_eq]

/-- The first character that settles a string decides whether it closes. -/
theorem readString_not_quoted_iff {ahead : Text} :
    ((∃ content lineEnd, (readString ahead).1 = cutOff content lineEnd) ∨
      (readString ahead).1 = openQuote) ↔
      ahead.find? (fun d => d = '"' ∨ d = '\n' ∨ d = '\r') ≠ some '"' := by
  rw [← settlesString_eq_decide, List.find?_eq_head?_dropWhile_not, readString]
  split
  · rename_i h
    simp [h]
  · rename_i h
    simp [h]
  · rename_i hq h
    simpa [h] using hq

theorem read_unclosed_iff {c : Char} {ahead : Text} :
    ((∃ content lineEnd, (read c ahead).1 = cutOff content lineEnd) ∨
      (read c ahead).1 = openQuote) ↔ Fault.unclosed.Holds c ahead := by
  rw [Fault.Holds, ← readString_not_quoted_iff]
  constructor
  · intro h
    -- what is taken starts with a quote, so this is the character at the cursor
    have hs := spelling_read c ahead
    have hc : c = '"' := by
      rcases h with ⟨content, lineEnd, hl⟩ | hl
      all_goals
        rw [hl] at hs
        exact (List.cons.inj hs).1.symm
    subst hc
    rw [read_quote] at h
    exact ⟨rfl, h⟩
  · rintro ⟨rfl, h⟩
    rwa [read_quote]

/-- A bad token is made for a fault, and for each fault. -/
theorem kind_read_eq_bad_iff {c : Char} {ahead : Text} :
    (read c ahead).1.kind = .bad ↔ ∃ fault : Fault, fault.Holds c ahead := by
  constructor
  · intro h
    have hl := (read c ahead).1.inv_kind
    rw [h] at hl
    rcases hl with hcut | hopen | hstray
    · exact ⟨.unclosed, read_unclosed_iff.mp (.inl hcut)⟩
    · exact ⟨.unclosed, read_unclosed_iff.mp (.inr hopen)⟩
    · rcases read_eq_stray_iff.mp hstray with h | h | h
      · exact ⟨_, h⟩
      · exact ⟨_, h⟩
      · exact ⟨_, h⟩
  · have hbad : (∃ d, (read c ahead).1 = stray d) → (read c ahead).1.kind = .bad := by
      rintro ⟨d, hd⟩
      rw [hd]
      rfl
    rintro ⟨fault, h⟩
    cases fault with
    | digit => exact hbad (read_eq_stray_iff.mpr (.inl h))
    | half => exact hbad (read_eq_stray_iff.mpr (.inr (.inl h)))
    | foreign => exact hbad (read_eq_stray_iff.mpr (.inr (.inr h)))
    | unclosed =>
      rcases read_unclosed_iff.mpr h with ⟨content, lineEnd, hl⟩ | hl
      all_goals
        rw [hl]
        rfl

end Lexeme

/-! ## What a step answers -/

namespace Lexer
variable {source : Text} {lx : Lexer} {c : Char} {ahead : Text}

theorem step_of_rest (h : lx.rest = c :: ahead) :
    lx.step = {
      token := (read c ahead).1.tokenAt lx.position
      events := (read c ahead).1.eventsAt lx.position
      after := lx.skip 1 } :=
  step_of_cons (by rw [h, lexemes_cons])

/-- What a step answers, with the character `c` at the cursor and the text `ahead` behind it. -/
structure AnswersFaults (source : Text) (lx : Lexer) (c : Char) (ahead : Text) : Prop where
  kind_iff : lx.step.token.kind = .bad ↔ ∃ fault : Fault, fault.Holds c ahead
  /-- A bad token holds one character, which stands in the text where the token does. -/
  single : lx.step.token.kind = .bad → ∃ d, lx.step.token.text = [d] ∧
    slice? source lx.step.token.position (lx.step.token.position + d.utf8Size) = some [d]
  unterminated_iff : lx.step.token.problem?.map Problem.cause = some .unterminatedString ↔
    Fault.unclosed.Holds c ahead
  unrecognised : lx.step.token.kind = .bad → ¬Fault.unclosed.Holds c ahead →
    lx.step.token.problem? = some { cause := .unrecognised [c], position := lx.position }

/-- The problem of a character that stays alone names this character, where the cursor is. -/
theorem problem?_of_stray (h : lx.rest = c :: ahead) (hs : ∃ d, (read c ahead).1 = stray d) :
    lx.step.token.problem? = some { cause := .unrecognised [c], position := lx.position } := by
  obtain ⟨d, hd⟩ := hs
  have hfit := read_fits c ahead
  have hspell := spelling_read c ahead
  rw [hd] at hfit hspell
  obtain rfl : d = c := (List.cons.inj hspell).1
  rw [step_of_rest h, hd, ← badCause_stray hfit.wellFormed]
  rfl

theorem cause_of_unclosed (h : lx.rest = c :: ahead) (hf : Fault.unclosed.Holds c ahead) :
    lx.step.token.problem?.map Problem.cause = some .unterminatedString := by
  rw [step_of_rest h]
  rcases read_unclosed_iff.mpr hf with ⟨content, lineEnd, hl⟩ | hl
  · have hfit := read_fits c ahead
    rw [hl] at hfit ⊢
    rw [← badCause_cutOff hfit.wellFormed.2 content]
    rfl
  · rw [hl]
    rfl

/-- A bad token has one character for its text. -/
theorem exists_text_of_bad (hk : lx.step.token.kind = .bad) : ∃ d, lx.step.token.text = [d] := by
  cases hr : lexemes lx.rest with
  | nil =>
    rw [step_of_nil hr] at hk
    cases hk
  | cons l ls =>
    rw [step_of_cons hr] at hk ⊢
    have hl := l.inv_kind
    rw [show l.kind = .bad from hk] at hl
    rcases hl with ⟨content, lineEnd, rfl⟩ | rfl | ⟨d, rfl⟩
    · exact ⟨lineEnd, rfl⟩
    · exact ⟨'"', rfl⟩
    · exact ⟨d, rfl⟩

theorem StandsIn.slice?_of_bad {passed : Text} (h : StandsIn source passed lx)
    (hk : lx.step.token.kind = .bad) {d : Char} (ht : lx.step.token.text = [d]) :
    slice? source lx.step.token.position (lx.step.token.position + d.utf8Size) = some [d] := by
  have hw : lx.step.token.written = [d] := by rw [Token.written, hk, ht]; rfl
  have hs := h.slice?_token
  obtain ⟨_, _, _, _, hstop⟩ := Text.slice?_eq_some_iff.mp hs
  rw [hw, Text.byteLength_cons, Text.byteLength_nil, Nat.add_zero] at hstop
  rwa [hw, ← hstop] at hs

/-- A token is bad just where there is a fault, and it tells by its text alone if that is a string
that does not close. -/
theorem answers_faults (h : Reachable source lx)
    (hc : slice? source lx.position (byteLength source) = some (c :: ahead)) :
    AnswersFaults source lx c ahead := by
  have hr : lx.rest = c :: ahead := by
    rw [h.proceeds.ahead] at hc
    exact Option.some.inj hc
  obtain ⟨passed, hstands⟩ := h.exists_standsIn
  have hkind : lx.step.token.kind = .bad ↔ ∃ fault : Fault, fault.Holds c ahead := by
    rw [step_of_rest hr]
    exact kind_read_eq_bad_iff
  have hstray : lx.step.token.kind = .bad → ¬Fault.unclosed.Holds c ahead →
      lx.step.token.problem? = some { cause := .unrecognised [c], position := lx.position } := by
    intro hk hnot
    obtain ⟨fault, hf⟩ := hkind.mp hk
    refine problem?_of_stray hr (read_eq_stray_iff.mpr ?_)
    cases fault with
    | digit => exact .inl hf
    | half => exact .inr (.inl hf)
    | unclosed => exact absurd hf hnot
    | foreign => exact .inr (.inr hf)
  refine ⟨hkind, ?_, ⟨?_, cause_of_unclosed hr⟩, hstray⟩
  · intro hk
    obtain ⟨d, hd⟩ := exists_text_of_bad hk
    exact ⟨d, hd, hstands.slice?_of_bad hk hd⟩
  · -- any other bad token names a character, and the others have no problem at all
    intro hcause
    by_contra hnot
    have hk : lx.step.token.kind = .bad := by
      by_contra hk
      rw [Token.problem?, if_neg hk] at hcause
      cases hcause
    rw [hstray hk hnot] at hcause
    cases hcause

/-- A digit that runs into a quote, and a string that a carriage return cuts off. -/
def digitThenString : Text := "7\"é\r|".toList

/-- The lexer behind the digit. -/
def behindDigit : Lexer :=
  ((ofText digitThenString).pull Problem.collect .step #[]).after

theorem answers_faults_behindDigit :
    Reachable digitThenString behindDigit ∧
      slice? digitThenString behindDigit.position (byteLength digitThenString) =
        some ('"' :: "é\r|".toList) ∧
      AnswersFaults digitThenString behindDigit '"' "é\r|".toList ∧
      behindDigit.step.token.problem? = some { cause := .unterminatedString, position := 4 } := by
  have hreach : Reachable digitThenString behindDigit := .pull _ _ _ .start
  have hahead : slice? digitThenString behindDigit.position (byteLength digitThenString) =
      some ('"' :: "é\r|".toList) := by
    decide +kernel
  exact ⟨hreach, hahead, answers_faults hreach hahead, by decide +kernel⟩

end Lexer
end ScriptScan
