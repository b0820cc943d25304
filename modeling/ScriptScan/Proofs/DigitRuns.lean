import ScriptScan.Proofs.Numbers
import ScriptScan.Proofs.Progress

/-! # Runs of digits

What stands behind a longest run of digits decides about all of it. Before whitespace or the end of
the text the run is one number. Before any other character it is none, and neither is any end of it:
a step takes the first digit alone and leaves the others with the same character behind them
(`Lexer.pull_of_digits`), so the steps after it go the same way to the end of the run
(`Lexer.steps_of_digits`). -/

namespace ScriptScan
open Lexeme
open Text (byteLength slice? isBlank startsWith)

/-- The text holds the digits `run` from `start` to `stop`, and what comes `after` them begins with
no further digit. -/
structure DigitRun (source : Text) (start stop : Nat) (run after : Text) : Prop where
  run_eq : slice? source start stop = some run
  after_eq : slice? source stop (byteLength source) = some after
  ne_nil : run ≠ []
  digits : ∀ c ∈ run, c.isDigit = true
  maximal : ∀ c, after.head? = some c → c.isDigit = false

/-- Nothing comes next, or whitespace. -/
def Text.Pauses (after : Text) : Prop := ∀ c, after.head? = some c → isBlank c = true

theorem Text.pauses_iff_endsNumber {after : Text} : after.Pauses ↔ endsNumber after = true := by
  cases after <;> simp [Pauses, endsNumber]

/-! ## Digits and their bytes -/

theorem Text.utf8Size_of_isDigit {c : Char} (h : c.isDigit = true) : c.utf8Size = 1 := by
  rw [Char.utf8Size_eq_one_iff, UInt32.le_iff_toNat_le]
  exact Nat.le_trans (toNat_le_of_isDigit h) (by decide)

theorem Text.byteLength_of_digits {run : Text} (h : ∀ c ∈ run, c.isDigit = true) :
    byteLength run = run.length := by
  induction run with
  | nil => rfl
  | cons c run ih =>
    obtain ⟨hc, hrun⟩ := List.forall_mem_cons.mp h
    rw [byteLength_cons, utf8Size_of_isDigit hc, ih hrun, List.length_cons, Nat.add_comm]

namespace DigitRun
variable {source run after : Text} {start stop : Nat}

theorem startsWith_after (h : DigitRun source start stop run after) :
    startsWith Char.isDigit after = false := by
  have hm := h.maximal
  cases after with
  | nil => rfl
  | cons c after => exact hm c rfl

theorem stop_eq (h : DigitRun source start stop run after) : stop = start + run.length := by
  obtain ⟨_, _, _, _, hstop⟩ := Text.slice?_eq_some_iff.mp h.run_eq
  rw [← hstop, Text.byteLength_of_digits h.digits]

theorem exists_source_eq (h : DigitRun source start stop run after) :
    ∃ before, source = before ++ (run ++ after) ∧ byteLength before = start := by
  obtain ⟨before, behind, hsource, hbefore, hend⟩ :=
    Text.slice?_eq_some_iff.mp (Text.slice?_append h.run_eq h.after_eq)
  have hnil : behind = [] := by
    have hlen := congrArg byteLength hsource
    rw [Text.byteLength_append, Text.byteLength_append] at hlen
    exact Text.byteLength_eq_zero_iff.mp (by omega)
  rw [hnil, List.append_nil] at hsource
  exact ⟨before, hsource, hbefore⟩

/-- A number that starts inside the run ends where the run does. -/
theorem pauses_of_number (h : DigitRun source start stop run after) {t : Token}
    (ht : t ∈ (scan source).tokens) (hk : t.kind = .number) (hlo : start ≤ t.position)
    (hhi : t.position < stop) : after.Pauses := by
  obtain ⟨i, l, hl, rfl⟩ | rfl := exists_step_of_mem_tokens ht
  · obtain ⟨digits, rfl⟩ := eq_number_of_kind hk
    have hfit := (fitBefore_lexemes source).getElem hl
    have hsource := source_eq_of_getElem? hl
    rw [List.append_nil] at hfit
    obtain ⟨before, hcut, rfl⟩ := h.exists_source_eq
    have hposition : ((number digits).tokenAt (reached source i)).position =
        byteLength (spellings ((lexemes source).take i)) := reached_eq source i
    rw [hposition] at hlo hhi
    have hboth : before ++ run ++ after =
        spellings ((lexemes source).take i) ++
          (digits ++ spellings ((lexemes source).drop (i + 1))) := by
      rw [List.append_assoc, ← hcut, ← List.append_assoc]
      exact hsource
    rw [h.stop_eq, ← Text.byteLength_of_digits h.digits] at hhi
    -- both runs of digits go on to the same place
    obtain ⟨inner, hinner, hrest⟩ := Text.exists_suffix hboth hlo hhi
    have hdrop := Text.dropWhile_run hfit.wellFormed.2
      (startsWith_isDigit_of_endsNumber hfit.endsBefore)
    rw [hrest, Text.dropWhile_run (fun d hd => h.digits d (hinner.subset hd)) h.startsWith_after]
      at hdrop
    rw [Text.pauses_iff_endsNumber, hdrop]
    exact hfit.endsBefore
  · cases hk

end DigitRun

theorem Lexer.Reachable.exists_digitRun {source : Text} {lx : Lexer} (h : Reachable source lx)
    {c : Char} {ahead : Text} (hrest : lx.rest = c :: ahead) (hc : c.isDigit = true) :
    ∃ stop run after, DigitRun source lx.position stop run after := by
  obtain ⟨passed, hstands⟩ := h.exists_standsIn
  have hcut : lx.rest = c :: ahead.takeWhile Char.isDigit ++ ahead.dropWhile Char.isDigit := by
    rw [hrest, List.cons_append, List.takeWhile_append_dropWhile]
  have hend := hstands.position_add
  rw [hcut, Text.byteLength_append, ← Nat.add_assoc] at hend
  refine ⟨_, c :: ahead.takeWhile Char.isDigit, ahead.dropWhile Char.isDigit,
    hstands.slice?_eq (u := []) hcut, ?_, List.cons_ne_nil _ _,
    Text.forall_mem_cons_takeWhile hc ahead, ?_⟩
  · have hafter := hstands.slice?_eq (w := []) (by rw [hcut, List.append_nil])
    rwa [hend] at hafter
  · intro d hd
    have hstart := Text.startsWith_dropWhile (p := Char.isDigit) ahead
    rw [startsWith, hd] at hstart
    exact hstart

/-! ## Steps over a run -/

namespace Lexer

theorem step_of_read {lx : Lexer} {c : Char} {ahead rest : Text} {l : Lexeme}
    (h : lx.rest = c :: ahead) (hr : read c ahead = (l, rest)) :
    lx.step = {
      token := l.tokenAt lx.position
      events := l.eventsAt lx.position
      after := { rest, position := lx.position + byteLength l.spelling } } := by
  rw [step, next?, h]
  simp only [hr, Option.getD_some]

/-- The bad token of a digit. -/
def badDigit (position : Nat) (c : Char) : Token := { kind := .bad, position, text := [c] }

variable {run after : Text} {σ : Type} (report : σ → Problem → σ)

/-- Digits that run into something other than whitespace: a step takes the first of them, and the
sink hears nothing. -/
theorem pull_of_digits {c : Char} (hc : c.isDigit = true) (hrun : ∀ d ∈ run, d.isDigit = true)
    (hstart : startsWith Char.isDigit after = false) (hend : endsNumber after = false)
    (position : Nat) (heard : σ) :
    pull (Problem.handTo report) .step ⟨c :: (run ++ after), position⟩ heard =
      ⟨[badDigit position c], ⟨run ++ after, position + 1⟩, heard⟩ := by
  have hread : read c (run ++ after) = (stray c, run ++ after) := by
    rw [read_of_isDigit hc, readDigits, Text.dropWhile_run hrun hstart, hend]
    rfl
  have hsize : byteLength (stray c).spelling = 1 := Text.utf8Size_of_isDigit hc
  simp only [pull, @step_of_read ⟨c :: (run ++ after), position⟩ _ _ _ _ rfl hread, hsize]
  rfl

theorem steps_of_digits (hrun : ∀ d ∈ run, d.isDigit = true)
    (hstart : startsWith Char.isDigit after = false) (hend : endsNumber after = false)
    (position : Nat) (heard : σ) :
    steps (Problem.handTo report) run.length ⟨run ++ after, position⟩ heard =
      ⟨run.mapIdx fun i c => badDigit (position + i) c, ⟨after, position + run.length⟩, heard⟩ := by
  induction run generalizing position with
  | nil => rfl
  | cons c run ih =>
    obtain ⟨hc, hrun⟩ := List.forall_mem_cons.mp hrun
    have hnext : ∀ i, position + 1 + i = position + (i + 1) := by omega
    rw [List.length_cons, List.cons_append, steps, pull_of_digits report hc hrun hstart hend]
    simp only [ih hrun, hnext, List.mapIdx_cons, List.singleton_append, Nat.add_zero]

theorem step_of_number (hr : Text.Pauses after) {lx : Lexer} (hne : run ≠ [])
    (hrun : ∀ d ∈ run, d.isDigit = true) (h : lx.rest = run ++ after) :
    lx.step = {
      token := (number run).tokenAt lx.position
      events := (number run).eventsAt lx.position
      after := { rest := after, position := lx.position + byteLength run } } := by
  obtain ⟨c, ahead, hc⟩ := List.exists_cons_of_ne_nil (List.append_ne_nil_of_left_ne_nil hne after)
  have hfit : (number run).Fits after := ⟨⟨hne, hrun⟩, Text.pauses_iff_endsNumber.mp hr⟩
  exact step_of_read (h.trans hc) (read_of_fits hfit hc)

/-- What a lexer answers that stands on the first of the digits `run`, which go on to `stop` and
have `after` behind them. -/
structure AnswersDigits (source : Text) (lx : Lexer) (stop : Nat) (run after : Text) : Prop where
  stop_eq : stop = lx.position + run.length
  /-- Before whitespace or the end of the text the run is one number. -/
  accepted : after.Pauses →
    lx.step.token.kind = .number ∧ lx.step.token.position = lx.position ∧
      lx.step.token.text = run ∧ lx.step.after = { rest := after, position := stop }
  /-- Before anything else as many steps as there are digits answer with a bad token for each, and
  no sink is handed a problem. -/
  rejected : ¬after.Pauses → ∀ {σ : Type} (report : σ → Problem → σ) (heard : σ),
    lx.steps (Problem.handTo report) (stop - lx.position) heard =
      { tokens := run.mapIdx fun i c => badDigit (lx.position + i) c
        after := { rest := after, position := stop }
        heard }
  /-- No number starts inside a run that is rejected. -/
  no_number : ¬after.Pauses → ∀ t ∈ (scan source).tokens, t.kind = .number →
    ¬(lx.position ≤ t.position ∧ t.position < stop)

theorem answersDigits_of_run {source : Text} {lx : Lexer} {stop : Nat} (h : Reachable source lx)
    (hrun : DigitRun source lx.position stop run after) :
    AnswersDigits source lx stop run after := by
  have hrest := h.rest_eq (Text.slice?_append hrun.run_eq hrun.after_eq)
  have hstop := hrun.stop_eq
  refine ⟨hstop, ?_, ?_, ?_⟩
  · intro hp
    rw [step_of_number hp hrun.ne_nil hrun.digits hrest, Text.byteLength_of_digits hrun.digits,
      ← hstop]
    exact ⟨rfl, rfl, rfl, rfl⟩
  · intro hp σ report heard
    have hend : endsNumber after = false :=
      Bool.eq_false_iff.mpr (mt Text.pauses_iff_endsNumber.mpr hp)
    have hsteps := steps_of_digits report hrun.digits hrun.startsWith_after hend lx.position heard
    rwa [← hrest, ← hstop, show run.length = stop - lx.position by omega] at hsteps
  · rintro hp t ht hk ⟨hlo, hhi⟩
    exact hp (hrun.pauses_of_number ht hk hlo hhi)

/-- Where a lexer stands on a digit there is a longest run of digits, and it is answered with one
number or with a bad token for each digit. -/
theorem digits_answered {source : Text} {lx : Lexer} (h : Reachable source lx) {c : Char}
    {ahead : Text} (hc : slice? source lx.position (byteLength source) = some (c :: ahead))
    (hd : c.isDigit = true) :
    (∃ stop run after, DigitRun source lx.position stop run after) ∧
      ∀ stop run after, DigitRun source lx.position stop run after →
        AnswersDigits source lx stop run after :=
  ⟨h.exists_digitRun (h.rest_eq hc) hd, fun _ _ _ => answersDigits_of_run h⟩

/-- A word, a blank, and digits that run into a stray character. -/
def digitsInTheWay : Text := "é 120# 7".toList

/-- The lexer behind the blank. -/
def onDigits : Lexer := ((ofText digitsInTheWay).pull Problem.collect (.take 2) #[]).after

theorem digits_answered_inTheWay :
    Reachable digitsInTheWay onDigits ∧
      slice? digitsInTheWay onDigits.position (byteLength digitsInTheWay) =
        some ('1' :: "20# 7".toList) ∧
      DigitRun digitsInTheWay onDigits.position 6 "120".toList "# 7".toList ∧
      onDigits.steps (Problem.handTo Array.push) 3 #[] =
        ⟨[badDigit 3 '1', badDigit 4 '2', badDigit 5 '0'], ⟨"# 7".toList, 6⟩, #[]⟩ := by
  have hreach : Reachable digitsInTheWay onDigits := .pull _ _ _ .start
  have hahead : slice? digitsInTheWay onDigits.position (byteLength digitsInTheWay) =
      some ('1' :: "20# 7".toList) := by
    decide +kernel
  have hrun : DigitRun digitsInTheWay onDigits.position 6 "120".toList "# 7".toList := by
    refine ⟨by decide +kernel, by decide +kernel, by decide, ?_, ?_⟩
    · exact List.all_eq_true.mp (by decide)
    · rintro c ⟨⟩
      decide
  have hanswers := (digits_answered hreach hahead rfl).2 _ _ _ hrun
  have hpauses : ¬Text.Pauses "# 7".toList := fun hp => absurd (hp '#' rfl) (by decide)
  exact ⟨hreach, hahead, hrun, hanswers.rejected hpauses Array.push #[]⟩

end Lexer

end ScriptScan
