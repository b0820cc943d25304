import ScriptScan.Shell
import ScriptScan.Proofs.Tiling
import Mathlib.Data.List.Basic
import Mathlib.Data.List.Forall2
import Mathlib.Data.List.Nodup

/-! # The problems that the shell shows

The shell gathers the problems of a line in two lists, one from its bad tokens and one from the
scan, and sorts them by position. As tokens stand in ascending order and no token has a problem in
both lists, the outcome is that of one pass over the tokens. -/

namespace ScriptScan
open Lexeme
open Text (byteLength)

/-- The problem of a number without a value. -/
def Token.tooLarge? (t : Token) : Option Problem :=
  if t.kind = .number ∧ t.value = none then
    some { cause := .numberTooLarge t.text, position := t.position }
  else none

/-- The problem that a token shows, be it a bad token or a number without a value. -/
def Token.shown? (t : Token) : Option Problem := t.problem?.or t.tooLarge?

/-! ## Tokens stand in ascending order -/

theorem Lexeme.lead_lt {l : Lexeme} (hw : l.WellFormed) : l.lead < byteLength l.spelling := by
  have hpos : byteLength l.spelling ≠ 0 :=
    Text.byteLength_eq_zero_iff.not.mpr hw.spelling_ne_nil
  cases l with
  | cutOff content lineEnd =>
    have := lineEnd.utf8Size_pos
    simp only [lead, spelling, Text.byteLength_append, Text.byteLength_cons]
    omega
  | number | blank | symbol | word | quoted | openQuote | stray => exact Nat.pos_of_ne_zero hpos

/-- The token of a step starts before the step ends, even where its string was cut off. -/
theorem position_answer_lt_reached {source : Text} {i : Nat} (hi : i < (lexemes source).length) :
    (answer source i).position < reached source (i + 1) := by
  have hl := List.getElem?_eq_getElem hi
  have hlead := lead_lt (wellFormed_of_getElem? hl)
  rw [answer_of_getElem? hl, reached_succ hl]
  exact Nat.add_lt_add_left hlead _

theorem reached_le_position_answer {source : Text} {i : Nat} (hi : i ≤ (lexemes source).length) :
    reached source i ≤ (answer source i).position := by
  rcases Nat.lt_or_eq_of_le hi with hi | rfl
  · exact (position_answer (List.getElem?_eq_getElem hi)).1
  · rw [answer_of_length_le (Nat.le_refl _), reached_of_length_le (Nat.le_refl _)]
    exact Nat.le_refl _

theorem pairwise_position_tokens (source : Text) :
    (scan source).tokens.Pairwise fun t u => t.position < u.position := by
  rw [tokens_eq_map_answer, List.pairwise_map]
  refine List.pairwise_lt_range.imp_of_mem ?_
  intro i j hi hj hij
  rw [List.mem_range] at hi hj
  calc (answer source i).position
      < reached source (i + 1) := position_answer_lt_reached (by omega)
    _ ≤ reached source j := reached_mono source hij
    _ ≤ (answer source j).position := reached_le_position_answer (by omega)

/-! ## Problems of tokens -/

theorem Token.position_of_shown? {t : Token} {problem : Problem} (h : t.shown? = some problem) :
    problem.position = t.position := by
  unfold shown? problem? tooLarge? at h
  split at h
  · rw [Option.some_or] at h
    rw [← Option.some.inj h]
  · rw [Option.none_or] at h
    split at h
    · rw [← Option.some.inj h]
    · cases h

theorem Lexeme.tooLarge?_tokenAt (l : Lexeme) (p : Nat) :
    (l.tokenAt p).tooLarge? = l.problemAt? p := by
  cases l with
  | number digits =>
    unfold Token.tooLarge? problemAt?
    cases h : (number digits).value? with
    | none => simp [tokenAt, kind, h, lead, Lexeme.text]
    | some n => simp [tokenAt, h]
  | word text =>
    have hk : (word text).kind ≠ .number := by
      rw [kind]
      split <;> simp
    simp [Token.tooLarge?, tokenAt, hk, problemAt?]
  | blank | symbol | quoted | cutOff | openQuote | stray => rfl

/-- What a stretch of a scan reports are its numbers without a value, in order. -/
theorem Lexeme.problemsFrom_eq_filterMap (position : Nat) (ls : List Lexeme) :
    problemsFrom position ls = (tokensFrom position ls).filterMap Token.tooLarge? := by
  rw [tokensFrom, List.filterMap_map]
  exact List.filterMap_congr fun x _ => (tooLarge?_tokenAt x.2 x.1).symm

theorem problems_scan_eq_filterMap (source : Text) :
    (scan source).problems = (scan source).tokens.filterMap Token.tooLarge? := by
  have hend : [Token.endAt (byteLength source)].filterMap Token.tooLarge? = [] := rfl
  rw [problems_scan, tokens_scan, List.filterMap_append, hend, List.append_nil,
    problemsFrom_eq_filterMap]

/-- Sorting apart what bad tokens and numbers show loses nothing. -/
theorem perm_shown (tokens : List Token) :
    (tokens.filterMap Token.shown?).Perm
      (tokens.filterMap Token.problem? ++ tokens.filterMap Token.tooLarge?) := by
  have hbad : tokens.filterMap Token.problem? =
      (tokens.filter (·.kind = .bad)).filterMap Token.shown? := by
    rw [List.filterMap_filter]
    refine List.filterMap_congr fun t _ => ?_
    by_cases h : t.kind = .bad <;> simp [Token.shown?, Token.problem?, h]
  have hnumber : tokens.filterMap Token.tooLarge? =
      (tokens.filter fun t => !decide (t.kind = .bad)).filterMap Token.shown? := by
    rw [List.filterMap_filter]
    refine List.filterMap_congr fun t _ => ?_
    by_cases h : t.kind = .bad <;> simp [Token.shown?, Token.problem?, Token.tooLarge?, h]
  rw [hbad, hnumber, ← List.filterMap_append]
  exact ((List.filter_append_perm (·.kind = .bad) tokens).filterMap Token.shown?).symm

theorem pairwise_position_shown (source : Text) :
    ((scan source).tokens.filterMap Token.shown?).Pairwise fun p q => p.position < q.position := by
  refine (pairwise_position_tokens source).filterMap Token.shown? ?_
  intro t u htu p hp q hq
  rw [Token.position_of_shown? hp, Token.position_of_shown? hq]
  exact htu

/-- Sorting a list of problems gives its only arrangement by ascending position. -/
theorem mergeSort_position_eq {ps qs : List Problem} (hperm : qs.Perm ps)
    (hlt : qs.Pairwise fun p q => p.position < q.position) :
    (ps.mergeSort fun p q => p.position ≤ q.position) = qs := by
  have hsorted := @List.pairwise_mergeSort Problem (fun p q => decide (p.position ≤ q.position))
    (by simpa using fun _ _ _ => Nat.le_trans) (by simpa using fun _ _ => Nat.le_total _ _) ps
  simp only [decide_eq_true_eq] at hsorted
  have hsort := (List.mergeSort_perm ps fun p q => decide (p.position ≤ q.position)).trans hperm.symm
  have hnodup : (qs.map Problem.position).Nodup := List.pairwise_map.mpr (hlt.imp Nat.ne_of_lt)
  refine hsort.eq_of_pairwise ?_ hsorted (hlt.imp Nat.le_of_lt)
  intro p q hp hq hpq hqp
  exact List.inj_on_of_nodup_map hnodup (hsort.mem_iff.mp hp) hq (Nat.le_antisymm hpq hqp)

theorem Shell.problems_eq_filterMap (source : Text) :
    problems source = (scan source).tokens.filterMap Token.shown? := by
  refine mergeSort_position_eq ?_ (pairwise_position_shown source)
  rw [problems_scan_eq_filterMap]
  exact perm_shown _

/-- Where all problems can be laid out, their reports stand one after the other. -/
theorem Shell.reports_eq_flatten {source : Text} {ps : List Problem} {shown : List Text}
    (h : ps.Forall₂ (fun p text => p.report source fileName = .ok text) shown) :
    reports source ps = (shown.flatten, none) := by
  induction h with
  | nil => rfl
  | cons hp _ ih => simp only [reports, hp, ih, List.flatten_cons]

/-- The shell shows every problem once and in the order of the tokens: those it sorts are the ones
that a single pass over the tokens finds, no two at one position, and none of those gathered while
scanning is lost. Their reports make up what it writes as errors. -/
theorem shell_shows_in_order (source : Text) :
    Shell.problems source = (scan source).tokens.filterMap Token.shown? ∧
      (Shell.problems source).Pairwise (fun p q => p.position < q.position) ∧
      (Shell.problems source).Perm
        ((scan source).tokens.filterMap Token.problem? ++ (scan source).problems) ∧
      ∀ shown : List Text,
        ((scan source).tokens.filterMap Token.shown?).Forall₂
          (fun p text => p.report source Shell.fileName = .ok text) shown →
        Shell.run source = { out := Shell.listing source, err := shown.flatten } := by
  refine ⟨Shell.problems_eq_filterMap source, ?_, List.mergeSort_perm _ _, ?_⟩
  · rw [Shell.problems_eq_filterMap]
    exact pairwise_position_shown source
  · intro shown h
    rw [Shell.run, Shell.problems_eq_filterMap, Shell.reports_eq_flatten h]

/-- A stray character and a number that is too large. -/
def mixedLine : Text := "# 9999999999".toList

def mixedReports : List Text :=
  ["Error: UnrecognisedToken\n-> shell\n  |\n1 | # 9999999999\n  | ^\n".toList,
    ("Error: NumberParseError (The number `9999999999` isn't a valid i32, is it above the " ++
      "integer limit?)\n-> shell\n  |\n1 | # 9999999999\n  | --^\n").toList]

theorem shell_shows_in_order_mixed :
    ((scan mixedLine).tokens.filterMap Token.shown?).Forall₂
        (fun p text => p.report mixedLine Shell.fileName = .ok text) mixedReports ∧
      Shell.problems mixedLine =
        [⟨.unrecognised ['#'], 0⟩, ⟨.numberTooLarge "9999999999".toList, 2⟩] ∧
      Shell.run mixedLine =
        { out := "BadToken: '#'\nWhitespaceToken: ' '\nNumberToken: '9999999999'\n".toList
          err := mixedReports.flatten } := by
  have hshown : (scan mixedLine).tokens.filterMap Token.shown? =
      [⟨.unrecognised ['#'], 0⟩, ⟨.numberTooLarge "9999999999".toList, 2⟩] := by decide +kernel
  have hreports : ((scan mixedLine).tokens.filterMap Token.shown?).Forall₂
      (fun p text => p.report mixedLine Shell.fileName = .ok text) mixedReports := by
    rw [hshown]
    exact .cons (by decide +kernel) (.cons (by decide +kernel) .nil)
  have hlisting : Shell.listing mixedLine =
      "BadToken: '#'\nWhitespaceToken: ' '\nNumberToken: '9999999999'\n".toList := by
    decide +kernel
  obtain ⟨hproblems, -, -, hrun⟩ := shell_shows_in_order mixedLine
  exact ⟨hreports, hproblems.trans hshown, hlisting ▸ hrun mixedReports hreports⟩

end ScriptScan
