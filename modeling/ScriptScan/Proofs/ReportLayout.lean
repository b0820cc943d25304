import ScriptScan.Proofs.Caret
import ScriptScan.Proofs.LineLookup

/-! # When a report can be laid out

A report of any problem in any source, be it one that a scan of the source would find or not. The
two widths of its rows are told by the character at the position: the margin by the line number,
which no source makes wide enough to matter, and the caret row by the column behind the indent.
Only the latter can be out of range, and then there is no report. A position at which no character
starts leaves the first two rows, and any other one has five. -/

namespace ScriptScan
open Text (byteLength isBlank Spot IsBoundary decimal)

/-! ## What is shown of a line -/

namespace Text

theorem isBlank_eq_false_of_getLast?_trimEnd {t : Text} {c : Char}
    (h : (trimEnd t).getLast? = some c) : isBlank c = false := by
  have hstart := startsWith_dropWhile (p := isBlank) t.reverse
  rw [trimEnd, dropEndWhile, List.getLast?_reverse] at h
  rw [startsWith, h] at hstart
  exact hstart

/-- A line is its indent, what is shown of it, and whitespace. -/
theorem Spot.exists_line_eq_shown (s : Spot) :
    ∃ tail, s.line = List.replicate s.indent ' ' ++ s.shown ++ tail ∧
      ∀ c ∈ tail, isBlank c = true := by
  obtain ⟨tail, htail, hblank⟩ := trimEnd_append (s.line.dropWhile (· == ' '))
  have hindent : s.line.takeWhile (· == ' ') = List.replicate s.indent ' ' :=
    List.eq_replicate_iff.mpr ⟨rfl, fun c hc => by simpa using List.mem_takeWhile_imp hc⟩
  refine ⟨tail, ?_, hblank⟩
  rw [← hindent, shown, List.append_assoc, htail, List.takeWhile_append_dropWhile]

end Text

/-! ## The rows of a report -/

namespace Problem

/-- The row with the name of the problem and the advice, if there is any. -/
def titleRow (problem : Problem) : Text :=
  "Error: ".toList ++ problem.name ++ match problem.cause.advice? with
    | some advice => " (".toList ++ advice ++ [')']
    | none => []

def fileRow (file : Text) : Text := "-> ".toList ++ file

/-- The three rows under a report's heading: the bar, the line, and the caret. -/
structure ExcerptRows (s : Spot) (bar row caret : Text) : Prop where
  /-- The bar stands under or over the one behind the line number. -/
  bar_eq : bar =
    List.replicate ((decimal ((s.above ++ s.lead).count '\n' + 1)).length + 1) ' ' ++ ['|']
  /-- The line is shown without its indent, and without the whitespace at its end. -/
  row_eq : ∃ shown tail,
    row = decimal ((s.above ++ s.lead).count '\n' + 1) ++ " | ".toList ++ shown ∧
      s.line = List.replicate s.indent ' ' ++ shown ++ tail ∧
      (∀ c ∈ tail, isBlank c = true) ∧ ∀ c, shown.getLast? = some c → isBlank c = false
  /-- As many dashes lead up to the caret as characters from the indent to the spot. -/
  caret_eq : caret = bar ++ [' '] ++ List.replicate (s.lead.length - s.indent) '-' ++ ['^']
  /-- None of them holds a row end. -/
  not_mem : '\n' ∉ bar ∧ '\n' ∉ row ∧ '\n' ∉ caret

namespace Report
variable {s : Spot}

theorem heading_eq (problem : Problem) (file : Text) :
    heading problem file = problem.titleRow ++ ['\n'] ++ fileRow file ++ ['\n'] := by
  have hgroup : ∀ title arrow : Text,
      title ++ '\n' :: arrow ++ file ++ ['\n'] = title ++ ['\n'] ++ (arrow ++ file) ++ ['\n'] := by
    intro title arrow
    simp only [List.append_assoc, List.cons_append, List.nil_append]
  exact hgroup _ "-> ".toList

theorem not_mem_lineRow (h : '\n' ∉ s.lead) : '\n' ∉ lineRow s := by
  rw [lineRow, List.mem_append, List.mem_append, not_or, not_or]
  exact ⟨⟨Text.not_mem_decimal (by decide) _, by decide⟩, s.not_mem_shown h⟩

theorem not_mem_margin : '\n' ∉ margin s := by
  simp [margin]

theorem not_mem_caretRow : '\n' ∉ caretRow s := by
  simp [caretRow, not_mem_margin]

theorem excerptRows (h : '\n' ∉ s.lead) : ExcerptRows s (margin s) (lineRow s) (caretRow s) where
  bar_eq := rfl
  row_eq := by
    obtain ⟨tail, htail, hblank⟩ := s.exists_line_eq_shown
    exact ⟨s.shown, tail, rfl, htail, hblank, fun _ => Text.isBlank_eq_false_of_getLast?_trimEnd⟩
  caret_eq := by simp [caretRow]
  not_mem := ⟨not_mem_margin, not_mem_lineRow h, not_mem_caretRow⟩

/-! ## Widths out of range -/

theorem padLeft_eq_error {fill : Char} {width : Nat} {t : Text} (h : widthLimit < width) :
    padLeft fill width t = .error .widthOutOfRange :=
  if_pos h

/-- The margin can be laid out, and so the caret is what makes an excerpt fail. -/
theorem excerpt_place_eq_error (hn : (decimal s.place.number).length + 2 ≤ widthLimit)
    (hd : widthLimit < s.lead.length - s.indent + 1) :
    excerpt s.place = .error .widthOutOfRange := by
  have hmargin : padLeft ' ' ((decimal s.place.number).length + 2) ['|'] = .ok (margin s) :=
    padLeft_singleton hn
  have hcaret : padLeft '-' (s.place.column - (s.place.line.takeWhile (· == ' ')).length + 1)
      ['^'] = .error .widthOutOfRange :=
    padLeft_eq_error hd
  simp only [excerpt, hmargin, hcaret, bind, Except.bind]

end Report
end Problem

open Problem (ExcerptRows titleRow fileRow)

variable {source : Text} {problem : Problem}

theorem report_of_not_marked
    (h : ¬(problem.position < byteLength source ∧ IsBoundary source problem.position))
    (file : Text) :
    problem.report source file =
      .ok (titleRow problem ++ ['\n'] ++ fileRow file ++ ['\n']) := by
  have hnone : Text.placeAt source problem.position = none := by
    rw [Text.placeAt_eq_none_iff, ← Nat.not_lt]
    exact not_and_or.mp h
  rw [Problem.report, hnone, Problem.Report.heading_eq]

theorem report_of_marks_eq_error {s : Spot} (h : s.Marks source problem.position)
    (hsize : byteLength source < 2 ^ 64) (hd : 65535 ≤ s.lead.length - s.indent) (file : Text) :
    problem.report source file = .error .widthOutOfRange := by
  have hwide : Problem.Report.widthLimit < s.lead.length - s.indent + 1 := Nat.lt_succ_of_le hd
  have hexcerpt := Problem.Report.excerpt_place_eq_error (margin_le_widthLimit h hsize) hwide
  simp only [Problem.report, Text.Spot.placeAt_of_marks h, hexcerpt, bind, Except.bind]

/-- When a report is laid out, and with what rows. -/
structure ReportLaidOut (problem : Problem) (source file : Text) : Prop where
  /-- A position at which a character starts has a spot, and only one. -/
  existsUnique_iff : (∃! s : Spot, s.Marks source problem.position) ↔
    problem.position < byteLength source ∧ IsBoundary source problem.position
  /-- Only a caret that is too far behind the indent keeps it from being laid out. -/
  fails_iff : (∃ e, problem.report source file = .error e) ↔
    ∃ s : Spot, s.Marks source problem.position ∧ 65535 ≤ s.lead.length - s.indent
  short : ¬(problem.position < byteLength source ∧ IsBoundary source problem.position) →
    problem.report source file = .ok (titleRow problem ++ ['\n'] ++ fileRow file ++ ['\n'])
  full : ∀ s : Spot, s.Marks source problem.position → s.lead.length - s.indent < 65535 →
    ∃ bar row caret, ExcerptRows s bar row caret ∧
      problem.report source file = .ok (titleRow problem ++ ['\n'] ++ fileRow file ++ ['\n'] ++
        bar ++ ['\n'] ++ row ++ ['\n'] ++ caret ++ ['\n'])

theorem report_laid_out (hsize : byteLength source < 2 ^ 64) (problem : Problem) (file : Text) :
    ReportLaidOut problem source file where
  existsUnique_iff := Text.Spot.existsUnique_marks_iff
  fails_iff := by
    constructor
    · rintro ⟨e, he⟩
      by_cases hplace :
          problem.position < byteLength source ∧ IsBoundary source problem.position
      · obtain ⟨s, hs⟩ := Text.Spot.exists_marks_of_lt hplace.1 hplace.2
        refine ⟨s, hs, Nat.le_of_not_lt fun hd => ?_⟩
        rw [report_of_marks hs hsize hd] at he
        cases he
      · rw [report_of_not_marked hplace] at he
        cases he
    · rintro ⟨s, hs, hd⟩
      exact ⟨_, report_of_marks_eq_error hs hsize hd file⟩
  short h := report_of_not_marked h file
  full s hs hd := by
    refine ⟨_, _, _, Problem.Report.excerptRows hs.not_mem_lead, ?_⟩
    rw [report_of_marks hs hsize hd, Problem.Report.heading_eq]

/-- A stray character this far to the right. -/
def farRight (n : Nat) : Text := List.replicate n 'x' ++ ['#']

def farRightSpot (n : Nat) : Spot :=
  { above := [], lead := List.replicate n 'x', char := '#', ahead := [] }

theorem byteLength_replicate (n : Nat) : byteLength (List.replicate n 'x') = n := by
  induction n with
  | zero => rfl
  | succ n ih =>
    have hx : 'x'.utf8Size = 1 := rfl
    rw [List.replicate_succ, Text.byteLength_cons, ih, hx, Nat.add_comm]

theorem marks_farRight (n : Nat) : (farRightSpot n).Marks (farRight n) n where
  source_eq := rfl
  position_eq := (byteLength_replicate n).symm
  above_eq := .inl rfl
  not_mem_lead := by simp [farRightSpot]

theorem indent_farRightSpot (n : Nat) : (farRightSpot n).indent = 0 := by
  cases n <;> rfl

theorem offset_farRightSpot (n : Nat) :
    (farRightSpot n).lead.length - (farRightSpot n).indent = n := by
  rw [indent_farRightSpot, Nat.sub_zero]
  exact List.length_replicate

theorem byteLength_farRight (n : Nat) : byteLength (farRight n) = n + 1 := by
  rw [farRight, Text.byteLength_append, byteLength_replicate]
  rfl

/-- The character that is just too far to the right, and its neighbour that is not. -/
theorem report_laid_out_farRight :
    byteLength (farRight 65535) < 2 ^ 64 ∧
      (∃ e, Problem.report ⟨.unrecognised ['#'], 65535⟩ (farRight 65535) [] = .error e) ∧
      ∃ text, Problem.report ⟨.unrecognised ['#'], 65534⟩ (farRight 65534) [] = .ok text := by
  have hsize : ∀ n ≤ 65535, byteLength (farRight n) < 2 ^ 64 := by
    intro n hn
    rw [byteLength_farRight]
    omega
  refine ⟨hsize _ (Nat.le_refl _), ?_, ?_⟩
  · refine (report_laid_out (hsize _ (Nat.le_refl _)) _ _).fails_iff.mpr
      ⟨_, marks_farRight 65535, ?_⟩
    rw [offset_farRightSpot]
  · obtain ⟨bar, row, caret, -, htext⟩ :=
      (report_laid_out (hsize 65534 (by decide)) ⟨.unrecognised ['#'], 65534⟩ []).full _
        (marks_farRight 65534) (by rw [offset_farRightSpot]; decide)
    exact ⟨_, htext⟩

end ScriptScan
