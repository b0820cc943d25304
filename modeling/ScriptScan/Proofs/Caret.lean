import ScriptScan.Proofs.Places
import ScriptScan.Proofs.ShownProblems
import Mathlib.Algebra.Group.Nat.Defs

/-! # The caret stands under the character

A report shows the line of a problem without the spaces in front and the whitespace behind, and a
caret under it. The problems of a scan refer to characters that survive both: none of them is a
space, and the only whitespace among them are line ends that cut off a string. So the caret has
the character right above it, unless that is a line end behind all that is left of the line. -/

namespace ScriptScan
open Lexeme
open Text (byteLength isBlank isLineEnd Spot)

/-! ## Lines and what is shown of them -/

namespace Text

theorem length_decimal_le {n : Nat} (h : n ≤ 2 ^ 64) : (decimal n).length ≤ 20 :=
  (Nat.length_toDigits_le_iff (by decide) (by decide)).mpr (Nat.lt_of_le_of_lt h (by decide))

theorem trimEnd_append (t : Text) :
    ∃ tail : Text, trimEnd t ++ tail = t ∧ ∀ c ∈ tail, isBlank c = true :=
  dropEndWhile_append isBlank t

theorem trimEnd_concat {c : Char} (h : isBlank c = true) (t : Text) :
    trimEnd (t ++ [c]) = trimEnd t :=
  dropEndWhile_concat h t

/-- A character is left in its place, or it is blank and nothing is left from there on. -/
theorem getElem?_trimEnd {t : Text} {i : Nat} {c : Char} (h : t[i]? = some c) :
    (trimEnd t)[i]? = some c ∨ isBlank c = true ∧ (trimEnd t).length ≤ i := by
  obtain ⟨tail, ht, hblank⟩ := trimEnd_append t
  rcases Nat.lt_or_ge i (trimEnd t).length with hi | hi
  · left
    rw [← ht, List.getElem?_append_left hi] at h
    exact h
  · right
    rw [← ht, List.getElem?_append_right hi] at h
    exact ⟨hblank c (List.mem_of_getElem? h), hi⟩

theorem mem_of_mem_trimEnd {t : Text} {c : Char} (h : c ∈ trimEnd t) : c ∈ t := by
  obtain ⟨tail, ht, -⟩ := trimEnd_append t
  rw [← ht]
  exact List.mem_append_left tail h

namespace Spot
variable (s : Spot)

/-- What a report shows of the line. -/
def shown : Text := trimEnd (s.line.dropWhile (· == ' '))

theorem getElem?_line : s.line[s.lead.length]? = some s.char := by
  rw [line, List.getElem?_append_right (Nat.le_refl _), Nat.sub_self, lineHead]
  by_cases hc : s.char = '\n'
  · simp [hc]
  · simp [hc]

/-- Spaces stop at the latest in front of a character that is none. -/
theorem indent_le (h : s.char ≠ ' ') : s.indent ≤ s.lead.length := by
  by_contra hlt
  have hchar : (s.line.takeWhile (· == ' '))[s.lead.length]? = some s.char := by
    rw [← s.getElem?_line]
    conv_rhs => rw [← List.takeWhile_append_dropWhile (p := (· == ' ')) (l := s.line)]
    exact (List.getElem?_append_left (Nat.lt_of_not_le hlt)).symm
  have hspace := List.mem_takeWhile_imp (List.mem_of_getElem? hchar)
  exact h (by simpa using hspace)

theorem getElem?_shown (h : s.char ≠ ' ') :
    s.shown[s.lead.length - s.indent]? = some s.char ∨
      isBlank s.char = true ∧ s.shown.length ≤ s.lead.length - s.indent := by
  apply getElem?_trimEnd
  have hline := s.getElem?_line
  rw [← List.takeWhile_append_dropWhile (p := (· == ' ')) (l := s.line),
    List.getElem?_append_right (s.indent_le h)] at hline
  exact hline

/-- A line is free of line feeds up to the one that it may end in. -/
theorem exists_line_eq (h : '\n' ∉ s.lead) :
    ∃ body ending, s.line = body ++ ending ∧ '\n' ∉ body ∧ (ending = [] ∨ ending = ['\n']) := by
  refine ⟨s.lead ++ (s.char :: s.ahead).takeWhile (· != '\n'),
    ((s.char :: s.ahead).dropWhile (· != '\n')).take 1, by rw [line, lineHead, List.append_assoc],
    ?_, ?_⟩
  · intro hm
    rcases List.mem_append.mp hm with hm | hm
    · exact h hm
    · exact absurd (List.mem_takeWhile_imp hm) (by decide)
  · have hstart := startsWith_dropWhile (p := (· != '\n')) (s.char :: s.ahead)
    cases hd : (s.char :: s.ahead).dropWhile (· != '\n') with
    | nil => exact .inl rfl
    | cons d ds =>
      rw [hd, startsWith_cons, bne_eq_false_iff_eq] at hstart
      exact .inr (by rw [hstart]; rfl)

/-- The line feed of the line is trimmed away. -/
theorem not_mem_shown (h : '\n' ∉ s.lead) : '\n' ∉ s.shown := by
  obtain ⟨body, ending, hline, hbody, hending⟩ := s.exists_line_eq h
  have hbody : '\n' ∉ body.dropWhile (· == ' ') :=
    fun hm => hbody ((List.dropWhile_sublist _).mem hm)
  have hdrop : s.line.dropWhile (· == ' ') = body.dropWhile (· == ' ') ++ ending := by
    rw [hline, List.dropWhile_append]
    split
    · rename_i hnil
      rw [List.isEmpty_iff.mp hnil]
      rcases hending with rfl | rfl <;> rfl
    · rfl
  intro hm
  rw [shown, hdrop] at hm
  rcases hending with rfl | rfl
  · rw [List.append_nil] at hm
    exact hbody (mem_of_mem_trimEnd hm)
  · rw [trimEnd_concat (by decide)] at hm
    exact hbody (mem_of_mem_trimEnd hm)

end Spot
end Text

/-! ## The rows of a report -/

namespace Problem.Report
open Text (decimal)

variable (s : Spot)

/-- The margin of the rows without a line number, up to the bar. -/
def margin : Text := List.replicate ((decimal s.place.number).length + 1) ' ' ++ ['|']

def lineRow : Text := decimal s.place.number ++ " | ".toList ++ s.shown

def caretRow : Text :=
  margin s ++ ' ' :: List.replicate (s.lead.length - s.indent) '-' ++ ['^']

theorem padLeft_singleton {fill c : Char} {n : Nat} (h : n + 1 ≤ widthLimit) :
    padLeft fill (n + 1) [c] = .ok (List.replicate n fill ++ [c]) := by
  rw [padLeft, if_neg (Nat.not_lt.mpr h)]
  rfl

theorem excerpt_place (hn : (decimal s.place.number).length + 2 ≤ widthLimit)
    (hd : s.lead.length - s.indent + 1 ≤ widthLimit) :
    excerpt s.place =
      .ok (margin s ++ ['\n'] ++ lineRow s ++ ['\n'] ++ caretRow s ++ ['\n']) := by
  have hmargin : padLeft ' ' ((decimal s.place.number).length + 2) ['|'] = .ok (margin s) :=
    padLeft_singleton hn
  have hcaret : padLeft '-' (s.place.column - (s.place.line.takeWhile (· == ' ')).length + 1)
      ['^'] = .ok (List.replicate (s.lead.length - s.indent) '-' ++ ['^']) :=
    padLeft_singleton hd
  simp only [excerpt, hmargin, hcaret, bind, Except.bind, pure, Except.pure]
  simp only [lineRow, caretRow, Spot.shown, Spot.place, List.append_assoc, List.cons_append,
    List.nil_append]

theorem idxOf_bar_margin : (margin s).idxOf '|' = (decimal s.place.number).length + 1 := by
  rw [margin, List.idxOf_append_of_notMem (by simp), List.length_replicate]
  rfl

theorem idxOf_bar_caretRow : (caretRow s).idxOf '|' = (decimal s.place.number).length + 1 := by
  rw [caretRow, List.append_assoc, List.idxOf_append_of_mem (by simp [margin]), idxOf_bar_margin]

theorem idxOf_bar_lineRow : (lineRow s).idxOf '|' = (decimal s.place.number).length + 1 := by
  rw [lineRow, List.append_assoc,
    List.idxOf_append_of_notMem (Text.not_mem_decimal (by decide) s.place.number)]
  rfl

theorem idxOf_caret : (caretRow s).idxOf '^' =
    (decimal s.place.number).length + 3 + (s.lead.length - s.indent) := by
  rw [caretRow, List.idxOf_append_of_notMem (by simp [margin])]
  simp [margin]
  omega

theorem getElem?_lineRow (i : Nat) :
    (lineRow s)[(decimal s.place.number).length + 3 + i]? = s.shown[i]? := by
  have hlen : (decimal s.place.number ++ " | ".toList).length =
      (decimal s.place.number).length + 3 := List.length_append
  rw [lineRow, ← hlen, List.getElem?_append_right (Nat.le_add_right ..), Nat.add_sub_cancel_left]

theorem length_lineRow :
    (lineRow s).length = (decimal s.place.number).length + 3 + s.shown.length := by
  rw [lineRow, List.length_append, List.length_append]
  rfl

end Problem.Report

/-! ## Problems of a scan -/

/-- A token with a problem begins, as written, with no whitespace, or is the line end that leaves a
string unterminated. -/
theorem Lexeme.written_of_shown? {l : Lexeme} (hw : l.WellFormed) {p : Nat} {problem : Problem}
    (h : (l.tokenAt p).shown? = some problem) :
    ∃ c tail, (l.tokenAt p).written = c :: tail ∧
      (isBlank c = false ∨ problem.cause = .unterminatedString ∧ isLineEnd c = true) := by
  cases l with
  | number digits =>
    obtain ⟨hne, hd⟩ := hw
    obtain ⟨d, ds, rfl⟩ := List.exists_cons_of_ne_nil hne
    exact ⟨d, ds, rfl, .inl (Text.isBlank_eq_false_of_isDigit (hd d (by simp)))⟩
  | blank | symbol | quoted => cases h
  | word text =>
    rcases kind_word text with hk | ⟨k, hk⟩ <;>
      simp [Token.shown?, Token.problem?, Token.tooLarge?, tokenAt, hk] at h
  | cutOff content lineEnd =>
    refine ⟨lineEnd, [], rfl, .inr ⟨?_, hw.2⟩⟩
    rw [← Option.some.inj h]
    exact badCause_cutOff hw.2 content
  | openQuote => exact ⟨'"', [], rfl, .inl (by decide)⟩
  | stray c => exact ⟨c, [], rfl, .inl hw.1⟩

theorem exists_char_of_shown? {source : Text} {t : Token} (ht : t ∈ (scan source).tokens)
    {problem : Problem} (h : t.shown? = some problem) :
    ∃ before c after, source = before ++ c :: after ∧ byteLength before = problem.position ∧
      (isBlank c = false ∨ problem.cause = .unterminatedString ∧ isLineEnd c = true) := by
  obtain ⟨i, l, hl, rfl⟩ | rfl := exists_step_of_mem_tokens ht
  · have hslice := slice?_answer hl
    rw [answer_of_getElem? hl] at hslice
    obtain ⟨before, after, hsource, hbefore, -⟩ := Text.slice?_eq_some_iff.mp hslice
    rw [← Token.position_of_shown? h] at hbefore
    obtain ⟨c, tail, hwritten, hc⟩ := written_of_shown? (wellFormed_of_getElem? hl) h
    refine ⟨before, c, tail ++ after, ?_, hbefore, hc⟩
    rw [hsource, hwritten, List.append_assoc, List.cons_append]
  · cases h

/-- The last two rows of a report point at a character. -/
structure PointsAt (s : Spot) (problem : Problem) (row caret : Text) : Prop where
  /-- The first row holds the line number and what is shown of the line. -/
  row_eq : row = Text.decimal ((s.above ++ s.lead).count '\n' + 1) ++ " | ".toList ++ s.shown
  /-- The second row ends in dashes and the caret. -/
  caret_eq : ∃ margin dashes, caret = margin ++ dashes ++ ['^'] ∧ '^' ∉ margin ∧
    dashes.length = s.lead.length - s.indent ∧ ∀ c ∈ dashes, c = '-'
  bar_mem : '|' ∈ row ∧ '|' ∈ caret
  bar_eq : row.idxOf '|' = caret.idxOf '|'
  /-- The character stands above the caret, or was a line end behind the row. -/
  points : row[caret.idxOf '^']? = some s.char ∨
    problem.cause = .unterminatedString ∧ (s.char = '\n' ∨ s.char = '\r') ∧
      row.length ≤ caret.idxOf '^'

open Problem.Report in
theorem pointsAt_rows {s : Spot} {problem : Problem} (hspace : s.char ≠ ' ')
    (hc : isBlank s.char = false ∨ problem.cause = .unterminatedString ∧ isLineEnd s.char = true) :
    PointsAt s problem (lineRow s) (caretRow s) where
  row_eq := rfl
  caret_eq := ⟨margin s ++ [' '], List.replicate (s.lead.length - s.indent) '-',
    by simp [caretRow], by simp [margin], List.length_replicate, by simp⟩
  bar_mem := ⟨by simp [lineRow], by simp [caretRow, margin]⟩
  bar_eq := by rw [idxOf_bar_lineRow, idxOf_bar_caretRow]
  points := by
    rw [idxOf_caret, getElem?_lineRow, length_lineRow]
    rcases s.getElem?_shown hspace with hchar | ⟨hblank, hlen⟩
    · exact .inl hchar
    · right
      rcases hc with hc | ⟨hcause, hend⟩
      · rw [hblank] at hc
        cases hc
      · exact ⟨hcause, by simpa [isLineEnd] using hend, by omega⟩

/-- No text of this size has so many lines that their numbers make the margin too wide. -/
theorem length_number_le {s : Spot} {source : Text} {position : Nat} (h : s.Marks source position)
    (hsize : byteLength source < 2 ^ 64) : (Text.decimal s.place.number).length ≤ 20 := by
  have hcount : (s.above ++ s.lead).count '\n' ≤ (s.above ++ s.lead).length := List.count_le_length
  have hbytes := Text.length_le_byteLength (s.above ++ s.lead)
  have hsource := congrArg byteLength h.source_eq
  rw [Text.byteLength_append] at hsource
  apply Text.length_decimal_le
  show (s.above ++ s.lead).count '\n' + 1 ≤ 2 ^ 64
  omega

theorem margin_le_widthLimit {s : Spot} {source : Text} {position : Nat}
    (h : s.Marks source position) (hsize : byteLength source < 2 ^ 64) :
    (Text.decimal s.place.number).length + 2 ≤ Problem.Report.widthLimit :=
  Nat.le_trans (Nat.add_le_add_right (length_number_le h hsize) 2) (by decide)

open Problem.Report in
theorem report_of_marks {s : Spot} {source : Text} {problem : Problem}
    (h : s.Marks source problem.position) (hsize : byteLength source < 2 ^ 64)
    (hd : s.lead.length - s.indent < 65535) (file : Text) :
    problem.report source file =
      .ok (heading problem file ++ margin s ++ ['\n'] ++ lineRow s ++ ['\n'] ++ caretRow s ++
        ['\n']) := by
  have hn := margin_le_widthLimit h hsize
  rw [Problem.report, Spot.placeAt_of_marks h]
  simp only [excerpt_place s hn hd, bind, Except.bind, pure, Except.pure, List.append_assoc]

/-- Every problem of a scan refers to a character of its text, at the indent of its line or behind,
and unless that is too far to the right its report points at it. No text is longer than positions of
64 bits can tell, so line numbers never make the margin too wide. -/
theorem report_points_at {source : Text} (hsize : byteLength source < 2 ^ 64) {problem : Problem}
    (h : (∃ t ∈ (scan source).tokens, t.problem? = some problem) ∨
      problem ∈ (scan source).problems) (file : Text) :
    ∃ s : Spot, s.Marks source problem.position ∧ s.indent ≤ s.lead.length ∧
      (s.lead.length - s.indent < 65535 → ∃ head row caret,
        problem.report source file = .ok (head ++ row ++ ['\n'] ++ caret ++ ['\n']) ∧
        head.getLast? = some '\n' ∧ '\n' ∉ row ∧ '\n' ∉ caret ∧ PointsAt s problem row caret) := by
  have hmem : problem ∈ (scan source).tokens.filterMap Token.shown? := by
    rw [(perm_shown _).mem_iff, List.mem_append, List.mem_filterMap, ← problems_scan_eq_filterMap]
    exact h
  obtain ⟨t, ht, hshown⟩ := List.mem_filterMap.mp hmem
  obtain ⟨before, c, after, hsource, hposition, hc⟩ := exists_char_of_shown? ht hshown
  obtain ⟨s, rfl, hs⟩ := Spot.exists_marks before c after
  rw [← hsource, hposition] at hs
  have hspace : s.char ≠ ' ' := by
    intro hsp
    rw [hsp] at hc
    rcases hc with hc | ⟨-, hc⟩ <;> cases hc
  refine ⟨s, hs, s.indent_le hspace, fun hd => ?_⟩
  refine ⟨Problem.Report.heading problem file ++ Problem.Report.margin s ++ ['\n'],
    Problem.Report.lineRow s, Problem.Report.caretRow s, report_of_marks hs hsize hd file,
    List.getLast?_concat, ?_, ?_, pointsAt_rows hspace hc⟩
  · intro hm
    simp only [Problem.Report.lineRow, List.mem_append] at hm
    rcases hm with (hm | hm) | hm
    · exact Text.not_mem_decimal (by decide) _ hm
    · exact absurd hm (by decide)
    · exact s.not_mem_shown hs.not_mem_lead hm
  · simp [Problem.Report.caretRow, Problem.Report.margin]

/-- A string on the second of two lines that a line feed cuts off behind a blank. -/
def brokenString : Text := "x\n  é \"a \n".toList

theorem report_points_at_brokenString :
    byteLength brokenString < 2 ^ 64 ∧
      (∃ t ∈ (scan brokenString).tokens, t.problem? = some ⟨.unterminatedString, 10⟩) ∧
      ∃ (s : Spot) (head row caret : Text), s.Marks brokenString 10 ∧
        Problem.report ⟨.unterminatedString, 10⟩ brokenString "é.bs".toList =
          .ok (head ++ row ++ ['\n'] ++ caret ++ ['\n']) ∧
        PointsAt s ⟨.unterminatedString, 10⟩ row caret := by
  have hsize : byteLength brokenString < 2 ^ 64 := by decide
  have hproblem : ∃ t ∈ (scan brokenString).tokens,
      t.problem? = some ⟨.unterminatedString, 10⟩ := by decide +kernel
  obtain ⟨s, hs, -, hreport⟩ := report_points_at hsize (.inl hproblem) "é.bs".toList
  have hlen := congrArg List.length hs.source_eq
  have hten : brokenString.length = 10 := by decide
  rw [hten, List.length_append, List.length_append] at hlen
  obtain ⟨head, row, caret, htext, -, -, -, hpoints⟩ := hreport (by omega)
  exact ⟨hsize, hproblem, s, head, row, caret, hs, htext, hpoints⟩

end ScriptScan
