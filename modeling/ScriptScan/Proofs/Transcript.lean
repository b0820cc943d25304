import ScriptScan.Proofs.Lines
import ScriptScan.Proofs.ShownProblems
import Mathlib.Data.List.DropRight

/-! # Transcripts

A whole run of the shell, told from its input. The lines in front that are texts and not blank are
the ones it replies to (`Leading`), each on its own and to the source that its line ends leave; what
comes next ends it (`Ends`). What comes after that line does not show, whatever it is. -/

namespace ScriptScan.Shell
open Lexeme (tokensFrom)
open Text (CutIntoLines encodeUtf8 decodeUtf8 decodeUtf8_eq_some_iff isAllBlank isBlank)

/-- A line without the line feeds and carriage returns at its end. -/
def stripped (line : Text) : Text := line.rdropWhile fun c => c = '\n' ∨ c = '\r'

/-- One row for each token except the end token. -/
def rows (source : Text) : Text :=
  ((scan source).tokens.filter (·.kind ≠ .endOfText)).flatMap fun t => t.display ++ ['\n']

/-- The problems that the tokens of a source show can all be laid out, and these are the reports. -/
def Reported (source : Text) (shown : List Text) : Prop :=
  ((scan source).tokens.filterMap Token.shown?).Forall₂
    (fun p text => p.report source fileName = .ok text) shown

/-- The lines of an input are first these texts, each with a character that is not blank, and then
the others. -/
structure Leading (input : List UInt8) (texts : List Text) (others : List (List UInt8)) : Prop where
  cut : CutIntoLines lineFeed input (texts.map encodeUtf8 ++ others)
  not_blank : ∀ text ∈ texts, ∃ c ∈ text, isBlank c = false

/-- How the shell ends at the lines ahead: what it adds to its errors, and its exit code. -/
inductive Ends : List (List UInt8) → Text → Nat → Prop
  | over : Ends [] [] 0
  | blank {text : Text} {lines : List (List UInt8)} :
    (∀ c ∈ text, isBlank c = true) → Ends (encodeUtf8 text :: lines) [] 0
  | unreadable {line : List UInt8} {lines : List (List UInt8)} :
    (∀ text, encodeUtf8 text ≠ line) → Ends (line :: lines) unreadable 1

/-! ## Replies -/

theorem sourceOf_eq_stripped (line : Text) : sourceOf line = stripped line := by
  have hp : Text.isLineEnd = fun c => decide (c = '\n' ∨ c = '\r') := by
    funext c
    rw [Text.isLineEnd, Bool.decide_or]
    rfl
  rw [sourceOf, hp]
  rfl

theorem listing_eq_rows (source : Text) : listing source = rows source := by
  have hkinds : (tokensFrom 0 (lexemes source)).filter (·.kind ≠ .endOfText) =
      tokensFrom 0 (lexemes source) :=
    List.filter_eq_self.mpr fun t ht => by simpa using Lexeme.kind_ne_endOfText_of_mem ht
  rw [listing, rows, tokens_scan, List.dropLast_concat, List.filter_append, hkinds]
  simp [Token.endAt]

theorem run_of_reported {source : Text} {shown : List Text} (h : Reported source shown) :
    run source = { out := rows source, err := shown.flatten } := by
  rw [run, problems_eq_filterMap, reports_eq_flatten h, listing_eq_rows]

theorem isAllBlank_iff {text : Text} : isAllBlank text = true ↔ ∀ c ∈ text, isBlank c = true :=
  List.all_eq_true

theorem isAllBlank_eq_false_iff {text : Text} :
    isAllBlank text = false ↔ ∃ c ∈ text, isBlank c = false := by
  simp [isAllBlank]

theorem respond_encodeUtf8 (text : Text) :
    respond (encodeUtf8 text) =
      if isAllBlank text then { exit? := some 0 } else run (sourceOf text) := by
  rw [respond, decodeUtf8_eq_some_iff.mpr rfl]

theorem Ends.respond_eq {line : List UInt8} {lines : List (List UInt8)} {err : Text} {code : Nat}
    (h : Ends (line :: lines) err code) : respond line = { err, exit? := some code } := by
  cases h with
  | blank hblank => rw [respond_encodeUtf8, if_pos (isAllBlank_iff.mpr hblank)]
  | unreadable hno =>
    have hnone : decodeUtf8 line = none :=
      Option.eq_none_iff_forall_ne_some.mpr fun text ht => hno text (decodeUtf8_eq_some_iff.mp ht)
    rw [respond, hnone]

/-! ## Runs over lines -/

theorem transcriptOf_cons_of_exit {line : List UInt8} {code : Nat}
    (h : (respond line).exit? = some code) (lines : List (List UInt8)) :
    transcriptOf (line :: lines) =
      { stdout := prompt ++ (respond line).out, stderr := (respond line).err, code } := by
  simp only [transcriptOf, h]

/-- A line that ends the shell hides all that follows it. -/
theorem transcriptOf_append_cons {stop : List UInt8} {code : Nat}
    (h : (respond stop).exit? = some code) (ahead lines lines' : List (List UInt8)) :
    transcriptOf (ahead ++ stop :: lines) = transcriptOf (ahead ++ stop :: lines') := by
  induction ahead with
  | nil =>
    rw [List.nil_append, List.nil_append, transcriptOf_cons_of_exit h, transcriptOf_cons_of_exit h]
  | cons line ahead ih => simp only [List.cons_append, transcriptOf, ih]

theorem Ends.transcriptOf_eq {lines : List (List UInt8)} {err : Text} {code : Nat}
    (h : Ends lines err code) : transcriptOf lines = { stdout := prompt, stderr := err, code } := by
  cases lines with
  | nil =>
    cases h
    rfl
  | cons line lines =>
    rw [transcriptOf_cons_of_exit (congrArg Reply.exit? h.respond_eq), h.respond_eq, List.append_nil]

theorem transcriptOf_texts {texts : List Text} {others : List (List UInt8)} {err : Text}
    {code : Nat} {shown : List (List Text)} (hends : Ends others err code)
    (hnot : ∀ text ∈ texts, ∃ c ∈ text, isBlank c = false)
    (hshown : texts.Forall₂ (fun text => Reported (stripped text)) shown) :
    transcriptOf (texts.map encodeUtf8 ++ others) =
      { stdout := (texts.flatMap fun text => prompt ++ rows (stripped text)) ++ prompt
        stderr := shown.flatten.flatten ++ err
        code } := by
  induction hshown with
  | nil => exact hends.transcriptOf_eq
  | @cons text reports texts shown hreports _ ih =>
    obtain ⟨hnot, hnots⟩ := List.forall_mem_cons.mp hnot
    have hreply : respond (encodeUtf8 text) =
        { out := rows (stripped text), err := reports.flatten } := by
      rw [respond_encodeUtf8, isAllBlank_eq_false_iff.mpr hnot, sourceOf_eq_stripped,
        ← run_of_reported hreports]
      rfl
    rw [List.map_cons, List.cons_append, transcriptOf, hreply, ih hnots]
    simp

/-! ## Runs over inputs -/

theorem exists_ends (lines : List (List UInt8)) :
    ∃ (texts : List Text) (others : List (List UInt8)) (err : Text) (code : Nat),
      lines = texts.map encodeUtf8 ++ others ∧
      (∀ text ∈ texts, ∃ c ∈ text, isBlank c = false) ∧ Ends others err code := by
  induction lines with
  | nil => exact ⟨[], [], [], 0, rfl, by simp, .over⟩
  | cons line lines ih =>
    by_cases hline : ∃ text, encodeUtf8 text = line
    · obtain ⟨text, rfl⟩ := hline
      by_cases hblank : ∀ c ∈ text, isBlank c = true
      · exact ⟨[], _, _, _, rfl, by simp, .blank hblank⟩
      · obtain ⟨texts, others, err, code, rfl, hnot, hends⟩ := ih
        refine ⟨text :: texts, others, err, code, rfl, ?_, hends⟩
        exact List.forall_mem_cons.mpr ⟨by simpa using hblank, hnot⟩
    · exact ⟨[], _, _, _, rfl, by simp, .unreadable (not_exists.mp hline)⟩

theorem transcript_of_cut {input : List UInt8} {lines : List (List UInt8)}
    (h : CutIntoLines lineFeed input lines) : transcript input = transcriptOf lines :=
  congrArg transcriptOf h.splitLines_eq

/-- The shell lists the tokens and reports the problems of each line in front, and stops where
these lines end. Every input has such lines, and the one after them hides all that follows. -/
theorem transcript_lines (input : List UInt8) :
    (∃ texts others err code, Leading input texts others ∧ Ends others err code) ∧
      ∀ texts others err code, Leading input texts others → Ends others err code →
        (∀ shown, texts.Forall₂ (fun text => Reported (stripped text)) shown →
          transcript input =
            { stdout := (texts.flatMap fun text => prompt ++ rows (stripped text)) ++ prompt
              stderr := shown.flatten.flatten ++ err
              code }) ∧
        ∀ stop lines lines' input', others = stop :: lines →
          CutIntoLines lineFeed input' (texts.map encodeUtf8 ++ stop :: lines') →
          transcript input' = transcript input := by
  refine ⟨?_, ?_⟩
  · obtain ⟨texts, others, err, code, hlines, hnot, hends⟩ :=
      exists_ends (Text.splitLines lineFeed input)
    exact ⟨texts, others, err, code, ⟨Text.splitLines_eq_iff.mp hlines, hnot⟩, hends⟩
  · intro texts others err code hlead hends
    refine ⟨?_, ?_⟩
    · intro shown hshown
      rw [transcript_of_cut hlead.cut]
      exact transcriptOf_texts hends hlead.not_blank hshown
    · rintro stop lines lines' input' rfl hcut
      rw [transcript_of_cut hlead.cut, transcript_of_cut hcut]
      exact transcriptOf_append_cons (congrArg Reply.exit? hends.respond_eq) _ _ _

/-- A declaration, then a stray character behind a word. -/
def twoLines : List Text := ["let x\r\n".toList, "y #\n".toList]

/-- A line that is not UTF-8. -/
def brokenLine : List UInt8 := [0xFF, lineFeed]

/-- The two lines, then one that ends the shell, then any others. -/
def twoLinesInput (lines : List (List UInt8)) : List UInt8 :=
  (twoLines.map encodeUtf8 ++ brokenLine :: lines).flatten

def twoLinesReports : List (List Text) :=
  [[], ["Error: UnrecognisedToken\n-> shell\n  |\n1 | y #\n  | --^\n".toList]]

def twoLinesRows : Text :=
  ("> LetKeyword: 'let'\nWhitespaceToken: ' '\nIdentifierToken: 'x'\n" ++
    "> IdentifierToken: 'y'\nWhitespaceToken: ' '\nBadToken: '#'\n> ").toList

theorem transcript_lines_broken :
    twoLines.Forall₂ (fun text => Reported (stripped text)) twoLinesReports ∧
      transcript (twoLinesInput []) =
        { stdout := twoLinesRows, stderr := twoLinesReports.flatten.flatten ++ unreadable, code := 1 } ∧
      transcript (twoLinesInput [encodeUtf8 "z\n".toList]) = transcript (twoLinesInput []) := by
  have hcut : CutIntoLines lineFeed (twoLinesInput [])
      (twoLines.map encodeUtf8 ++ [brokenLine]) :=
    Text.splitLines_eq_iff.mp (by decide +kernel)
  have hlong : CutIntoLines lineFeed (twoLinesInput [encodeUtf8 "z\n".toList])
      (twoLines.map encodeUtf8 ++ [brokenLine, encodeUtf8 "z\n".toList]) :=
    Text.splitLines_eq_iff.mp (by decide +kernel)
  have hlead : Leading (twoLinesInput []) twoLines [brokenLine] := by
    have hall : ∀ text ∈ twoLines, isAllBlank text = false := by decide +kernel
    exact ⟨hcut, fun text ht => isAllBlank_eq_false_iff.mp (hall text ht)⟩
  have hends : Ends [brokenLine] unreadable 1 := by
    have hnone : decodeUtf8 brokenLine = none := by decide +kernel
    refine .unreadable fun text ht => ?_
    rw [decodeUtf8_eq_some_iff.mpr ht] at hnone
    cases hnone
  have hshown : twoLines.Forall₂ (fun text => Reported (stripped text)) twoLinesReports := by
    refine .cons ?_ (.cons ?_ .nil)
    · have hnone : (scan (stripped "let x\r\n".toList)).tokens.filterMap Token.shown? = [] := by
        decide +kernel
      rw [Reported, hnone]
      exact .nil
    · have hone : (scan (stripped "y #\n".toList)).tokens.filterMap Token.shown? =
          [⟨.unrecognised ['#'], 2⟩] := by
        decide +kernel
      rw [Reported, hone]
      exact .cons (by decide +kernel) .nil
  have hrows : (twoLines.flatMap fun text => prompt ++ rows (stripped text)) ++ prompt =
      twoLinesRows := by
    decide +kernel
  obtain ⟨htranscript, hhidden⟩ := (transcript_lines (twoLinesInput [])).2 _ _ _ _ hlead hends
  exact ⟨hshown, hrows ▸ htranscript _ hshown, hhidden _ _ _ _ rfl hlong⟩

end ScriptScan.Shell
