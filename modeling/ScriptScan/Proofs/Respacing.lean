import ScriptScan.Proofs.Extension
import ScriptScan.Proofs.Slices
import Mathlib.Data.List.Forall2

/-! # Whitespace only separates

Other whitespace in place of each whitespace token changes no other token. To a lexeme the text
behind it looks the same, as whitespace is whitespace to all that it asks (`Text.Alike`); only the
quote of an open string asks more, whether a line end follows. So the lexemes with other blanks
between them are the lexemes of the new text. -/

namespace ScriptScan
open Lexeme
open Text (byteLength isBlank isWordPart startsWith)

namespace Text

/-- The text from a byte position on, with each stretch between two byte positions replaced by a
text. None if the stretches are out of order or cut through a character. -/
def splice? (t : Text) (start : Nat) : List ((Nat × Nat) × Text) → Option Text
  | [] => slice? t start (byteLength t)
  | ((first, stop), run) :: others => do
    let kept ← slice? t start first
    let after ← splice? t stop others
    some (kept ++ run ++ after)

/-- Two texts that are the same up to their first blank. -/
inductive Alike : Text → Text → Prop
  | nil : Alike [] []
  | blank {c d : Char} {t u : Text} : isBlank c = true → isBlank d = true → Alike (c :: t) (d :: u)
  | cons {t u : Text} (c : Char) : Alike t u → Alike (c :: t) (c :: u)

namespace Alike
variable {t u : Text}

theorem append (h : Alike t u) (v : Text) : Alike (v ++ t) (v ++ u) := by
  induction v with
  | nil => exact h
  | cons c v ih => exact .cons c ih

/-- A class that holds of no blank does not tell the texts apart. -/
theorem startsWith_eq (h : Alike t u) {p : Char → Bool} (hp : ∀ c, isBlank c = true → p c = false) :
    startsWith p t = startsWith p u := by
  cases h with
  | nil | cons => rfl
  | blank hc hd => rw [startsWith_cons, startsWith_cons, hp _ hc, hp _ hd]

theorem startsWith_isBlank_eq (h : Alike t u) : startsWith isBlank t = startsWith isBlank u := by
  cases h with
  | nil | cons => rfl
  | blank hc hd => rw [startsWith_cons, startsWith_cons, hc, hd]

theorem endsNumber_eq (h : Alike t u) : endsNumber t = endsNumber u := by
  cases h with
  | nil | cons => rfl
  | blank hc hd => rw [endsNumber, endsNumber, hc, hd]

theorem dropWhile_isDigit (h : Alike t u) :
    Alike (t.dropWhile Char.isDigit) (u.dropWhile Char.isDigit) := by
  induction h with
  | nil => exact .nil
  | blank hc hd =>
    rw [List.dropWhile_cons_of_neg (by simp [isDigit_eq_false_of_isBlank hc]),
      List.dropWhile_cons_of_neg (by simp [isDigit_eq_false_of_isBlank hd])]
    exact .blank hc hd
  | cons c h ih =>
    rw [List.dropWhile_cons, List.dropWhile_cons]
    split
    · exact ih
    · exact .cons c h

end Alike
end Text

/-- The byte positions where the text of a token starts and stops. -/
def Token.span (t : Token) : Nat × Nat := (t.position, t.position + byteLength t.text)

/-- The whitespace tokens among tokens. -/
def Token.blanks (tokens : List Token) : List Token := tokens.filter (·.kind = .whitespace)

/-- Tokens of one kind that are the same in all but their positions, or are both whitespace. -/
def Token.Matches (t u : Token) : Prop :=
  u.kind = t.kind ∧ (t.kind ≠ .whitespace → u.text = t.text ∧ u.value = t.value)

namespace Lexeme

/-- Each blank of `ls` has given way to the next of the runs. -/
inductive Respaced : List Lexeme → List Text → List Lexeme → Prop
  | nil : Respaced [] [] []
  | blank {ls ms : List Lexeme} {runs : List Text} {run : Text} (old : Text) :
    (blank run).WellFormed → Respaced ls runs ms →
    Respaced (blank old :: ls) (run :: runs) (blank run :: ms)
  | other {ls ms : List Lexeme} {runs : List Text} {l : Lexeme} :
    l.kind ≠ .whitespace → Respaced ls runs ms → Respaced (l :: ls) runs (l :: ms)

theorem exists_respaced {ls : List Lexeme} {runs : List Text}
    (hlen : runs.length = ls.countP (·.kind = .whitespace))
    (hruns : ∀ run ∈ runs, (blank run).WellFormed) : ∃ ms, Respaced ls runs ms := by
  induction ls generalizing runs with
  | nil =>
    obtain rfl := List.length_eq_zero_iff.mp hlen
    exact ⟨[], .nil⟩
  | cons l ls ih =>
    by_cases hk : l.kind = .whitespace
    · obtain ⟨old, rfl⟩ := eq_blank_of_kind hk
      rw [List.countP_cons_of_pos (by simpa using hk)] at hlen
      obtain ⟨run, runs, rfl⟩ := List.exists_cons_of_length_eq_add_one hlen
      obtain ⟨hrun, hruns⟩ := List.forall_mem_cons.mp hruns
      obtain ⟨ms, hms⟩ := ih (Nat.succ.inj hlen) hruns
      exact ⟨_, .blank old hrun hms⟩
    · rw [List.countP_cons_of_neg (by simpa using hk)] at hlen
      obtain ⟨ms, hms⟩ := ih hlen hruns
      exact ⟨_, .other hk hms⟩

theorem blanks_tokensFrom_cons {l : Lexeme} (hk : l.kind ≠ .whitespace) (p : Nat)
    (ls : List Lexeme) :
    Token.blanks (tokensFrom p (l :: ls)) =
      Token.blanks (tokensFrom (p + byteLength l.spelling) ls) :=
  List.filter_cons_of_neg (mt of_decide_eq_true hk)

/-- What stands behind a lexeme is all it needs to know, up to the first blank. -/
theorem Fits.alike {l : Lexeme} {t u : Text} (h : l.Fits t) (ho : l ≠ openQuote)
    (ha : Text.Alike t u) : l.Fits u := by
  obtain ⟨hw, he⟩ := h
  refine ⟨hw, ?_⟩
  have hne : ∀ {c d : Char}, isBlank c = false → isBlank d = true → (d == c) = false := by
    intro c d hc hd
    refine beq_eq_false_iff_ne.mpr ?_
    rintro rfl
    rw [hc] at hd
    cases hd
  cases l with
  | number digits => exact ha.endsNumber_eq.symm.trans he
  | blank run => exact ha.startsWith_isBlank_eq.symm.trans he
  | symbol s => exact fun hs => (ha.startsWith_eq fun _ => hne (by decide)).symm.trans (he hs)
  | word text =>
    exact (ha.startsWith_eq fun _ => Text.isWordPart_eq_false_of_isBlank).symm.trans he
  | quoted content => trivial
  | cutOff content lineEnd => trivial
  | openQuote => exact absurd rfl ho
  | stray c =>
    obtain ⟨hd, hp⟩ := he
    exact ⟨fun hc => ha.dropWhile_isDigit.endsNumber_eq.symm.trans (hd hc),
      fun hc => (ha.startsWith_eq fun _ => hne hw.1).symm.trans (hp hc)⟩

/-- The cause of a lexeme's problem, wherever it stands. -/
def cause? (l : Lexeme) : Option Cause := (l.problemAt? 0).map Problem.cause

theorem map_cause_problemsFrom (p : Nat) (ls : List Lexeme) :
    (problemsFrom p ls).map Problem.cause = ls.filterMap cause? := by
  have hcause : ∀ x : Nat × Lexeme, (x.2.problemAt? x.1).map Problem.cause = cause? x.2 := by
    intro x
    unfold cause? problemAt?
    split <;> rfl
  rw [problemsFrom, List.map_filterMap]
  conv_rhs => rw [← map_snd_placed p ls, List.filterMap_map]
  exact List.filterMap_congr fun x _ => hcause x

theorem length_blanks_tokensFrom (p : Nat) (ls : List Lexeme) :
    (Token.blanks (tokensFrom p ls)).length = ls.countP (·.kind = .whitespace) := by
  rw [Token.blanks, ← List.countP_eq_length_filter, tokensFrom, List.countP_map]
  conv_rhs => rw [← map_snd_placed p ls, List.countP_map]
  rfl

namespace Respaced
variable {ls ms : List Lexeme} {runs : List Text}

theorem alike (h : Respaced ls runs ms) (hw : ∀ l ∈ ls, l.WellFormed) :
    Text.Alike (spellings ls) (spellings ms) := by
  induction h with
  | nil => exact .nil
  | blank old hrun _ ih =>
    obtain ⟨hold, -⟩ := List.forall_mem_cons.mp hw
    obtain ⟨c, t, rfl⟩ := List.exists_cons_of_ne_nil hold.1
    obtain ⟨d, u, rfl⟩ := List.exists_cons_of_ne_nil hrun.1
    exact .blank (hold.2 c (by simp)) (hrun.2 d (by simp))
  | other _ _ ih =>
    rw [spellings_cons, spellings_cons]
    exact (ih (List.forall_mem_cons.mp hw).2).append _

theorem fitBefore (h : Respaced ls runs ms) (hfit : FitBefore [] ls)
    (ho : ∀ l ∈ ls, l ≠ openQuote) : FitBefore [] ms := by
  induction h with
  | nil => trivial
  | blank old hrun hrest ih =>
    obtain ⟨hl, hls⟩ := hfit
    have halike := hrest.alike hls.wellFormed
    rw [List.append_nil] at hl
    refine ⟨⟨hrun, ?_⟩, ih hls (List.forall_mem_cons.mp ho).2⟩
    rw [List.append_nil]
    exact halike.startsWith_isBlank_eq.symm.trans hl.endsBefore
  | other _ hrest ih =>
    obtain ⟨hl, hls⟩ := hfit
    obtain ⟨hlo, hlso⟩ := List.forall_mem_cons.mp ho
    refine ⟨?_, ih hls hlso⟩
    rw [List.append_nil] at hl ⊢
    exact hl.alike hlo (hrest.alike hls.wellFormed)

/-- With the runs in place of its whitespace tokens a text spells the new lexemes. -/
theorem splice?_eq (h : Respaced ls runs ms) {source : Text} (before kept : Text) (position : Nat)
    (hs : source = before ++ kept ++ spellings ls)
    (hp : position = byteLength before + byteLength kept) :
    Text.splice? source (byteLength before)
      (((Token.blanks (tokensFrom position ls)).map Token.span).zip runs) =
        some (kept ++ spellings ms) := by
  induction h generalizing before kept position with
  | nil =>
    refine Text.slice?_eq_some_iff.mpr ⟨before, [], ?_, rfl, ?_⟩
    · simp [hs]
    · simp [hs]
  | @blank ls ms runs run old _ _ ih =>
    have htokens : Token.blanks (tokensFrom position (Lexeme.blank old :: ls)) =
        (Lexeme.blank old).tokenAt position ::
          Token.blanks (tokensFrom (position + byteLength old) ls) := rfl
    have hspan : ((Lexeme.blank old).tokenAt position).span =
        (position, byteLength (before ++ kept ++ old)) := by
      simp only [Token.span, tokenAt, lead, Lexeme.text, Text.byteLength_append, hp, Nat.add_zero]
    have hkept : Text.slice? source (byteLength before) position = some kept :=
      Text.slice?_eq_some_iff.mpr
        ⟨before, old ++ spellings ls, by simpa [spelling] using hs, rfl, hp.symm⟩
    have hrest := ih (before ++ kept ++ old) [] (position + byteLength old)
      (by simpa [spelling] using hs)
      (by simp only [Text.byteLength_append, Text.byteLength_nil, hp, Nat.add_zero])
    rw [htokens, List.map_cons, hspan, List.zip_cons_cons, Text.splice?, hkept, hrest]
    simp [spelling]
  | @other ls ms runs l hk _ ih =>
    have hrest := ih before (kept ++ l.spelling) (position + byteLength l.spelling)
      (by simpa using hs) (by rw [Text.byteLength_append, hp, Nat.add_assoc])
    rw [blanks_tokensFrom_cons hk, hrest]
    simp

theorem forall₂_matches (h : Respaced ls runs ms) (p q : Nat) :
    (tokensFrom p ls).Forall₂ Token.Matches (tokensFrom q ms) := by
  induction h generalizing p q with
  | nil => exact .nil
  | blank old _ _ ih => exact .cons ⟨rfl, fun hk => absurd rfl hk⟩ (ih _ _)
  | other _ _ ih => exact .cons ⟨rfl, fun _ => ⟨rfl, rfl⟩⟩ (ih _ _)

theorem map_text_blanks (h : Respaced ls runs ms) (p : Nat) :
    (Token.blanks (tokensFrom p ms)).map Token.text = runs := by
  induction h generalizing p with
  | nil => rfl
  | blank old _ _ ih => exact congrArg (_ :: ·) (ih _)
  | other hk _ ih => rw [blanks_tokensFrom_cons hk, ih]

theorem filterMap_cause? (h : Respaced ls runs ms) :
    ms.filterMap cause? = ls.filterMap cause? := by
  induction h with
  | nil => rfl
  | blank old _ _ ih => exact ih
  | other _ _ ih => rw [List.filterMap_cons, List.filterMap_cons, ih]

end Respaced
end Lexeme

theorem blanks_tokens_scan (source : Text) :
    Token.blanks (scan source).tokens = Token.blanks (tokensFrom 0 (lexemes source)) := by
  rw [tokens_scan, Token.blanks, List.filter_append]
  exact List.append_nil _

/-- A text whose strings are settled, with any other whitespace in place of each of its whitespace
tokens, has the same tokens but for these, and the same problems at other positions. -/
theorem scan_splice {source : Text} (h : StringsSettled source) {runs : List Text}
    (hlen : runs.length = (Token.blanks (scan source).tokens).length)
    (hruns : ∀ run ∈ runs, run ≠ [] ∧ ∀ c ∈ run, isBlank c = true) :
    ∃ source', Text.splice? source 0
        (((Token.blanks (scan source).tokens).map Token.span).zip runs) = some source' ∧
      (scan source).tokens.Forall₂ Token.Matches (scan source').tokens ∧
      (Token.blanks (scan source').tokens).map Token.text = runs ∧
      (scan source').problems.map Problem.cause = (scan source).problems.map Problem.cause := by
  rw [blanks_tokens_scan] at hlen ⊢
  have hcount : runs.length = (lexemes source).countP (·.kind = .whitespace) := by
    rw [hlen, length_blanks_tokensFrom]
  obtain ⟨ms, hms⟩ := exists_respaced hcount hruns
  have hfit := hms.fitBefore (fitBefore_lexemes source) ((stringsSettled_iff source).mp h)
  have hlex : lexemes (spellings ms) = ms := lexemes_eq_iff.mpr ⟨rfl, hfit⟩
  refine ⟨spellings ms, ?_, ?_, ?_, ?_⟩
  · exact hms.splice?_eq [] [] 0 (by simp [spellings_lexemes]) rfl
  · rw [tokens_scan, tokens_scan, hlex]
    exact List.rel_append (hms.forall₂_matches 0 0) (.cons ⟨rfl, fun _ => ⟨rfl, rfl⟩⟩ .nil)
  · rw [blanks_tokens_scan, hlex, hms.map_text_blanks]
  · rw [problems_scan, problems_scan, map_cause_problemsFrom, map_cause_problemsFrom, hlex,
      hms.filterMap_cause?]

def oneLine : Text := "let x = 9999999999 \"a b\"".toList

def blankRuns : List Text := ["\r\n".toList, "\u2003 ".toList, "\n".toList, "\t".toList]

def manyLines : Text := "let\r\nx\u2003 =\n9999999999\t\"a b\"".toList

/-- Line ends and wide blanks come in, while the blank inside the string stays. -/
theorem scan_splice_lines :
    StringsSettled oneLine ∧
      Text.splice? oneLine 0 (((Token.blanks (scan oneLine).tokens).map Token.span).zip blankRuns) =
        some manyLines ∧
      (scan oneLine).tokens.Forall₂ Token.Matches (scan manyLines).tokens ∧
      (Token.blanks (scan manyLines).tokens).map Token.text = blankRuns ∧
      (scan manyLines).problems.map Problem.cause = [.numberTooLarge "9999999999".toList] := by
  have hsettled : StringsSettled oneLine := by decide +kernel
  have hlen : blankRuns.length = (Token.blanks (scan oneLine).tokens).length := by decide +kernel
  have hruns : ∀ run ∈ blankRuns, run ≠ [] ∧ ∀ c ∈ run, isBlank c = true := by
    have hall : ∀ run ∈ blankRuns, run ≠ [] ∧ run.all isBlank = true := by decide +kernel
    exact fun run hrun => (hall run hrun).imp_right List.all_eq_true.mp
  have hcause : (scan oneLine).problems.map Problem.cause =
      [.numberTooLarge "9999999999".toList] := by decide +kernel
  have hsplice : Text.splice? oneLine 0
      (((Token.blanks (scan oneLine).tokens).map Token.span).zip blankRuns) = some manyLines := by
    decide +kernel
  obtain ⟨source', hs, htokens, htexts, hcauses⟩ := scan_splice hsettled hlen hruns
  obtain rfl := Option.some.inj (hs.symm.trans hsplice)
  exact ⟨hsettled, hsplice, htokens, htexts, hcauses.trans hcause⟩

end ScriptScan
