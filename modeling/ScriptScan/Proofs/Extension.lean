import ScriptScan.Proofs.Scan
import Mathlib.Data.List.Basic

/-! # Scanning a text and what comes after it

A text that goes on differently keeps its tokens but the last, and keeps that one too where the
two parts meet at the edge of a whitespace run. Both follow from one fact: a lexeme that fits
before the rest of a text fits before any longer rest, unless it is the quote of an open string
(`Fits.append`). -/

namespace ScriptScan
open Lexeme
open Text (byteLength isBlank isLineEnd startsWith)

/-- No string of the text runs to its end: no bad token holds a quote. -/
def StringsSettled (source : Text) : Prop :=
  ∀ t ∈ (scan source).tokens, ¬(t.kind = .bad ∧ t.text = ['"'])

instance (source : Text) : Decidable (StringsSettled source) :=
  inferInstanceAs (Decidable (∀ t ∈ _, _))

/-- The problems reported while the first `n` tokens of a text are taken. -/
def problemsWithin (source : Text) (n : Nat) : List Problem :=
  ((Lexer.ofText source).take Problem.collect n #[]).heard.toList

/-- The token, moved on by so many bytes. -/
def Token.moved (d : Nat) (t : Token) : Token := { t with position := d + t.position }

/-- The problem, moved on by so many bytes. -/
def Problem.moved (d : Nat) (p : Problem) : Problem := { p with position := d + p.position }

namespace Lexeme

/-- A bad token holds a quote only for the quote of an open string. -/
theorem bad_quote_iff {l : Lexeme} (hw : l.WellFormed) :
    l.kind = .bad ∧ l.text = ['"'] ↔ l = openQuote := by
  constructor
  · intro h
    obtain ⟨hk, ht⟩ := h
    cases l with
    | openQuote => rfl
    | cutOff content lineEnd =>
      obtain rfl : lineEnd = '"' := by simpa [Lexeme.text] using ht
      exact absurd hw.2 (by decide)
    | stray c => exact absurd (by simpa [Lexeme.text] using ht) hw.2.2.1
    | word text =>
      rw [kind] at hk
      split at hk <;> cases hk
    | number | blank | symbol | quoted => cases hk
  · intro ho
    rw [ho]
    exact ⟨rfl, rfl⟩

end Lexeme

theorem stringsSettled_iff (source : Text) :
    StringsSettled source ↔ ∀ l ∈ lexemes source, l ≠ openQuote := by
  have hw := (fitBefore_lexemes source).wellFormed
  rw [StringsSettled, tokens_scan]
  constructor
  · intro h l hl ho
    obtain ⟨p, hp⟩ := exists_mem_tokensFrom 0 hl
    exact h _ (List.mem_append_left _ hp) ((bad_quote_iff (hw l hl)).mpr ho)
  · intro h t ht hbad
    rcases List.mem_append.mp ht with ht | ht
    · obtain ⟨l, hl, p, rfl⟩ := mem_tokensFrom ht
      exact h l hl ((bad_quote_iff (hw l hl)).mp hbad)
    · obtain rfl := List.mem_singleton.mp ht
      exact absurd hbad.1 (by simp [Token.endAt])

namespace Lexeme

/-- What follows a lexeme shows it where to end, so more text behind that changes nothing. Only an
open string looks through all of the text, and a lexeme at the very end sees what is added. -/
theorem Fits.append {l : Lexeme} {rest more : Text} (h : l.Fits rest) (ho : l ≠ openQuote)
    (hm : rest = [] → l.EndsBefore more) : l.Fits (rest ++ more) := by
  obtain ⟨hw, he⟩ := h
  refine ⟨hw, ?_⟩
  by_cases hr : rest = []
  · rw [hr]
    exact hm hr
  cases l with
  | number digits =>
    refine endsNumber_eq_true_iff.mpr (.inr ?_)
    rw [Text.startsWith_append hr]
    exact (endsNumber_eq_true_iff.mp he).resolve_left hr
  | blank run => exact (Text.startsWith_append hr more).trans he
  | symbol s => exact fun hs => (Text.startsWith_append hr more).trans (he hs)
  | word text => exact (Text.startsWith_append hr more).trans he
  | quoted content => trivial
  | cutOff content lineEnd => trivial
  | openQuote => exact absurd rfl ho
  | stray c =>
    obtain ⟨hd, hp⟩ := he
    refine ⟨fun hc => ?_, fun hc => (Text.startsWith_append hr more).trans (hp hc)⟩
    -- the run of digits ends inside `rest`, or the digit would be part of a number
    have hd := hd hc
    have hne : rest.dropWhile Char.isDigit ≠ [] := by
      intro hnil
      rw [hnil] at hd
      cases hd
    rw [List.dropWhile_append, if_neg (by simpa using hne)]
    obtain ⟨d, ds, hds⟩ := List.exists_cons_of_ne_nil hne
    rw [hds] at hd ⊢
    exact hd

/-- The same for lexemes in a row: only the last sees what is added. -/
theorem FitBefore.append {ls : List Lexeme} {rest more : Text} (h : FitBefore rest ls)
    (ho : ∀ l ∈ ls, l ≠ openQuote)
    (hm : rest = [] → ∀ l, ls.getLast? = some l → l.EndsBefore more) :
    FitBefore (rest ++ more) ls := by
  induction ls with
  | nil => trivial
  | cons l ls ih =>
    obtain ⟨hl, hls⟩ := h
    obtain ⟨hlo, hlso⟩ := List.forall_mem_cons.mp ho
    cases ls with
    | nil => exact ⟨hl.append hlo fun hr => hm hr l rfl, trivial⟩
    | cons m ms =>
      refine ⟨?_, ih hls hlso hm⟩
      have hne : spellings (m :: ms) ++ rest ≠ [] := by
        simp [hls.1.wellFormed.spelling_ne_nil]
      rw [← List.append_assoc]
      exact hl.append hlo fun hnil => absurd hnil hne

/-- Before whitespace every lexeme ends but whitespace and the quote of an open string. -/
theorem endsBefore_of_startsWith_isBlank {l : Lexeme} (h : l.Fits []) (ho : l ≠ openQuote)
    (hb : ∀ run, l ≠ blank run) {more : Text} (hm : startsWith isBlank more = true) :
    l.EndsBefore more := by
  obtain ⟨hw, he⟩ := h
  have hnot : ∀ {c : Char}, isBlank c = false → startsWith (· == c) more = false := by
    intro c hc
    refine Text.startsWith_eq_false ?_ hm
    intro d hd
    refine beq_eq_false_iff_ne.mpr ?_
    intro hdc
    rw [← hdc, hd] at hc
    cases hc
  cases l with
  | number digits => exact endsNumber_eq_true_iff.mpr (.inr hm)
  | blank run => exact absurd rfl (hb run)
  | symbol s => exact fun _ => hnot (by decide)
  | word text => exact Text.startsWith_eq_false (fun _ => Text.isWordPart_eq_false_of_isBlank) hm
  | quoted content => trivial
  | cutOff content lineEnd => trivial
  | openQuote => exact absurd rfl ho
  | stray c =>
    refine ⟨fun hc => ?_, fun _ => hnot hw.1⟩
    -- a digit at the end of the text is a number
    have := he.1 hc
    cases this

/-- Only whitespace, and a line end that cuts off a string, ends in a blank. -/
theorem isBlank_getLast {l : Lexeme} (hw : l.WellFormed) (hb : ∀ run, l ≠ blank run)
    (hcut : ∀ content lineEnd, l ≠ cutOff content lineEnd) {c : Char}
    (hc : l.spelling.getLast? = some c) : isBlank c = false := by
  have hmem := List.mem_of_getLast? hc
  cases l with
  | number digits => exact Text.isBlank_eq_false_of_isDigit (hw.2 c hmem)
  | blank run => exact absurd rfl (hb run)
  | symbol s =>
    cases s
    all_goals
      obtain rfl := Option.some.inj hc
      decide
  | word text => exact Text.isBlank_eq_false_of_isWordPart (hw.2 c hmem)
  | quoted content =>
    rw [show (quoted content).spelling = '"' :: content ++ ['"'] from rfl,
      List.getLast?_concat] at hc
    obtain rfl := Option.some.inj hc
    decide
  | cutOff content lineEnd => exact absurd rfl (hcut content lineEnd)
  | openQuote =>
    obtain rfl := Option.some.inj hc
    decide
  | stray d =>
    obtain rfl := Option.some.inj hc
    exact hw.1

/-- A lexeme at the end of a text ends there too if whitespace starts or stops at the seam. -/
theorem endsBefore_of_seam {l : Lexeme} (h : l.Fits []) (ho : l ≠ openQuote) {c : Char}
    (hc : l.spelling.getLast? = some c) {more : Text}
    (hseam : startsWith isBlank more = !isBlank c) : l.EndsBefore more := by
  cases l with
  | blank run =>
    have hb : isBlank c = true := h.wellFormed.2 c (List.mem_of_getLast? hc)
    rw [hb] at hseam
    exact hseam
  | cutOff content lineEnd => trivial
  | number | symbol | word | quoted | openQuote | stray =>
    apply endsBefore_of_startsWith_isBlank h ho
    · intro run hrun
      cases hrun
    · rw [hseam, isBlank_getLast h.wellFormed (by simp) (by simp) hc]
      rfl

end Lexeme

/-! ## The same tokens up to the last -/

theorem take_tokens_scan {source : Text} {n : Nat} (h : n ≤ (lexemes source).length) :
    (scan source).tokens.take n = tokensFrom 0 ((lexemes source).take n) := by
  rw [tokens_scan, List.take_append_of_le_length (by simpa using h)]
  have happ := tokensFrom_append 0 ((lexemes source).take n) ((lexemes source).drop n)
  rw [List.take_append_drop] at happ
  rw [happ]
  exact List.take_left' (by rw [length_tokensFrom, List.length_take_of_le h])

theorem problemsWithin_eq (source : Text) (n : Nat) :
    problemsWithin source n = problemsFrom 0 ((lexemes source).take n) := by
  simp [problemsWithin, Lexer.take_eq, Problem.toList_foldl_collect, filterMap_problem?_eventsFrom,
    Lexer.ofText]

theorem problemsWithin_prefix (source : Text) (n : Nat) :
    problemsWithin source n <+: (scan source).problems := by
  have happ := problemsFrom_append 0 ((lexemes source).take n) ((lexemes source).drop n)
  rw [List.take_append_drop] at happ
  rw [problemsWithin_eq, problems_scan, happ]
  exact List.prefix_append _ _

/-- All lexemes but the last are lexemes of the longer text. -/
theorem take_lexemes_append {a : Text} (h : ∀ l ∈ lexemes a, l ≠ openQuote) {n : Nat}
    (hn : n < (lexemes a).length) (b : Text) :
    (lexemes (a ++ b)).take n = (lexemes a).take n := by
  have hfit := fitBefore_lexemes a
  rw [← List.take_append_drop n (lexemes a), fitBefore_append, List.append_nil] at hfit
  have hne : spellings ((lexemes a).drop n) ≠ [] := by
    rw [List.drop_eq_getElem_cons hn, spellings_cons]
    have := (fitBefore_lexemes a).wellFormed _ (List.getElem_mem hn)
    simp [this.spelling_ne_nil]
  have hlong : FitBefore (spellings ((lexemes a).drop n) ++ b) ((lexemes a).take n) :=
    hfit.1.append (fun l hl => h l (List.mem_of_mem_take hl)) fun hnil => absurd hnil hne
  have hlex := lexemes_spellings_append hlong
  rw [← List.append_assoc, ← spellings_append, List.take_append_drop, spellings_lexemes] at hlex
  rw [hlex]
  exact List.take_left' (List.length_take_of_le (Nat.le_of_lt hn))

/-- Appending to a text whose strings are settled changes at most its last token: the tokens
before that one stay, and their problems stay and come first. -/
theorem scan_append_stable {a : Text} (h : StringsSettled a) (b : Text) {n : Nat}
    (hn : n + 2 ≤ (scan a).tokens.length) :
    (scan (a ++ b)).tokens.take n = (scan a).tokens.take n ∧
      problemsWithin (a ++ b) n = problemsWithin a n ∧
      problemsWithin a n <+: (scan (a ++ b)).problems := by
  have hlen : n < (lexemes a).length := by
    rw [tokens_scan, List.length_append, length_tokensFrom, List.length_singleton] at hn
    omega
  have hlex := take_lexemes_append ((stringsSettled_iff a).mp h) hlen b
  have hlong : n ≤ (lexemes (a ++ b)).length := by
    have hcount := congrArg List.length hlex
    rw [List.length_take, List.length_take] at hcount
    omega
  have hprob : problemsWithin (a ++ b) n = problemsWithin a n := by
    rw [problemsWithin_eq, problemsWithin_eq, hlex]
  refine ⟨?_, hprob, hprob ▸ problemsWithin_prefix (a ++ b) n⟩
  rw [take_tokens_scan hlong, take_tokens_scan (Nat.le_of_lt hlen), hlex]

/-- The sign at the end grows, the number before it stays as it is. -/
theorem scan_append_stable_sign :
    StringsSettled "9999999999 =".toList ∧ 2 + 2 ≤ (scan "9999999999 =".toList).tokens.length ∧
      (scan ("9999999999 =".toList ++ "= x".toList)).tokens.take 2 =
        (scan "9999999999 =".toList).tokens.take 2 ∧
      [⟨.numberTooLarge "9999999999".toList, 0⟩] <+:
        (scan ("9999999999 =".toList ++ "= x".toList)).problems := by
  have hs : StringsSettled "9999999999 =".toList := by decide +kernel
  have hn : 2 + 2 ≤ (scan "9999999999 =".toList).tokens.length := by decide +kernel
  have hp : problemsWithin "9999999999 =".toList 2 =
      [⟨.numberTooLarge "9999999999".toList, 0⟩] := by decide +kernel
  obtain ⟨htok, -, hpre⟩ := scan_append_stable hs "= x".toList hn
  exact ⟨hs, hn, htok, hp ▸ hpre⟩

/-! ## The two scans end to end -/

theorem tokensFrom_add (d position : Nat) (ls : List Lexeme) :
    tokensFrom (d + position) ls = (tokensFrom position ls).map (Token.moved d) := by
  simp only [tokensFrom, placed_add, List.map_map]
  refine List.map_congr_left fun x _ => ?_
  simp [tokenAt, Token.moved, Nat.add_assoc]

theorem problemsFrom_add (d position : Nat) (ls : List Lexeme) :
    problemsFrom (d + position) ls = (problemsFrom position ls).map (Problem.moved d) := by
  simp only [problemsFrom, placed_add, List.filterMap_map, List.map_filterMap]
  refine List.filterMap_congr fun x _ => ?_
  simp only [Function.comp_apply, problemAt?]
  split <;> rfl

/-- Cut where whitespace starts or stops, two texts are scanned apart. -/
theorem lexemes_append {a b : Text} (ha : a ≠ []) (hb : b ≠ [])
    (h : ∀ l ∈ lexemes a, l ≠ openQuote) (hseam : isBlank (a.getLast ha) ≠ isBlank (b.head hb)) :
    lexemes (a ++ b) = lexemes a ++ lexemes b := by
  have hfit := fitBefore_lexemes a
  have hlong : FitBefore ([] ++ b) (lexemes a) := by
    refine hfit.append h fun _ l hl => ?_
    obtain ⟨init, hinit⟩ := List.getLast?_eq_some_iff.mp hl
    rw [hinit, fitBefore_append] at hfit
    have hlfit : l.Fits [] := by simpa [FitBefore] using hfit.2
    have hlast : l.spelling.getLast? = some (a.getLast ha) := by
      rw [← List.getLast?_eq_some_getLast ha]
      conv_rhs => rw [← spellings_lexemes a, hinit, spellings_append, spellings_cons,
        spellings_nil, List.append_nil]
      rw [List.getLast?_append_of_ne_nil _ hlfit.wellFormed.spelling_ne_nil]
    refine endsBefore_of_seam hlfit (h l (List.mem_of_getLast? hl)) hlast ?_
    obtain ⟨c, rest, rfl⟩ := List.exists_cons_of_ne_nil hb
    exact Bool.eq_not_of_ne hseam.symm
  have hlex := lexemes_spellings_append hlong
  rwa [List.nil_append, spellings_lexemes] at hlex

theorem getLast_mem {a before after : Text} (ha : a ≠ []) (h : a = before ++ after)
    (hne : after ≠ []) : a.getLast ha ∈ after := by
  subst h
  rw [List.getLast_append_of_ne_nil ha hne]
  exact List.getLast_mem hne

/-- A line end settles the strings before it. -/
theorem stringsSettled_of_isLineEnd {a : Text} (ha : a ≠ []) (h : isLineEnd (a.getLast ha) = true) :
    StringsSettled a := by
  rw [stringsSettled_iff]
  intro l hl ho
  subst ho
  obtain ⟨i, hi, hopen⟩ := List.mem_iff_getElem.mp hl
  have hget : (lexemes a)[i]? = some openQuote := by rw [List.getElem?_eq_getElem hi, hopen]
  have hfit := ((fitBefore_lexemes a).getElem hget).endsBefore
  rw [List.append_nil] at hfit
  have hmem : a.getLast ha ∈ '"' :: spellings ((lexemes a).drop (i + 1)) :=
    getLast_mem ha (by simpa [spelling] using source_eq_of_getElem? hget) (by simp)
  rcases List.mem_cons.mp hmem with hq | hm
  · rw [hq] at h
    cases h
  · have := hfit _ hm
    rw [settlesString_of_isLineEnd h] at this
    cases this

/-- Two texts between which whitespace starts or stops are scanned as one text and as two with the
same outcome, if the strings of the first are settled. A line end settles them. -/
theorem scan_append {a b : Text} (ha : a ≠ []) (hb : b ≠ [])
    (hseam : isBlank (a.getLast ha) ≠ isBlank (b.head hb)) :
    (isLineEnd (a.getLast ha) = true → StringsSettled a) ∧
      (StringsSettled a →
        (scan (a ++ b)).tokens =
          (scan a).tokens.dropLast ++ (scan b).tokens.map (Token.moved (byteLength a)) ∧
        (scan (a ++ b)).problems =
          (scan a).problems ++ (scan b).problems.map (Problem.moved (byteLength a))) := by
  refine ⟨stringsSettled_of_isLineEnd ha, fun h => ?_⟩
  have hlex := lexemes_append ha hb ((stringsSettled_iff a).mp h) hseam
  constructor
  · have htok := tokensFrom_add (byteLength a) 0 (lexemes b)
    rw [tokens_scan, tokens_scan, tokens_scan, hlex, tokensFrom_append, spellings_lexemes,
      Nat.zero_add, List.dropLast_concat, List.map_append, ← htok, Text.byteLength_append]
    simp [Token.moved, Token.endAt]
  · have hprob := problemsFrom_add (byteLength a) 0 (lexemes b)
    rw [problems_scan, problems_scan, problems_scan, hlex, problemsFrom_append, spellings_lexemes,
      Nat.zero_add, ← hprob, Nat.add_zero]

/-- Two lines, each with a number that is too large. -/
theorem scan_append_lines :
    isBlank ("x 9999999999\n".toList.getLast (by decide)) ≠
        isBlank ("9999999999 é".toList.head (by decide)) ∧
      isLineEnd ("x 9999999999\n".toList.getLast (by decide)) = true ∧
      (scan ("x 9999999999\n".toList ++ "9999999999 é".toList)).tokens =
        (scan "x 9999999999\n".toList).tokens.dropLast ++
          (scan "9999999999 é".toList).tokens.map (Token.moved 13) ∧
      (scan ("x 9999999999\n".toList ++ "9999999999 é".toList)).problems =
        [⟨.numberTooLarge "9999999999".toList, 2⟩, ⟨.numberTooLarge "9999999999".toList, 13⟩] := by
  have hseam : isBlank ("x 9999999999\n".toList.getLast (by decide)) ≠
      isBlank ("9999999999 é".toList.head (by decide)) := by decide
  have hend : isLineEnd ("x 9999999999\n".toList.getLast (by decide)) = true := by decide
  obtain ⟨hsettled, happ⟩ := scan_append (by decide) (by decide) hseam
  obtain ⟨htok, hprob⟩ := happ (hsettled hend)
  exact ⟨hseam, hend, htok, hprob.trans (by decide +kernel)⟩

end ScriptScan
