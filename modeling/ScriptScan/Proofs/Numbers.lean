import ScriptScan.Proofs.ShownProblems
import Mathlib.Data.Nat.Digits.Defs

/-! # Numbers are decoded exactly

A number has the value that its digits denote, however many there are, unless that is too large.
A scan hands its sink the numbers without a value, once each and in order, and nothing else. No
other digits of the text are ever reported: a byte belongs to one step only, and digits behind
which no number may end belong to a step that makes none. -/

namespace ScriptScan
open Lexeme
open Text (byteLength isBlank startsWith)

namespace Text

/-- The number that decimal digits denote by their places: the last counts ones, each one before it
ten times as much. -/
def denoted (digits : Text) : Nat :=
  Nat.ofDigits 10 (digits.reverse.map fun c => c.toNat - '0'.toNat)

/-- Reading digits from the left gives what their places denote. -/
theorem ofDecimal_eq_denoted (digits : Text) : ofDecimal digits = denoted digits := by
  induction digits with
  | nil => rfl
  | cons c digits ih =>
    rw [ofDecimal, Nat.ofDigitChars_cons, Nat.ofDigitChars_eq_ofDigitChars_zero, ← ofDecimal, ih,
      denoted, denoted, List.reverse_cons, List.map_append, Nat.ofDigits_append, List.length_map,
      List.length_reverse, List.map_singleton, Nat.ofDigits_singleton, Nat.mul_zero, Nat.zero_add,
      Nat.add_comm]

/-- What stands behind a position in the middle of three parts begins with an end of that part. -/
theorem exists_suffix {u v w before after : Text} (h : u ++ v ++ w = before ++ after)
    (hlo : byteLength u ≤ byteLength before)
    (hhi : byteLength before < byteLength u + byteLength v) :
    ∃ inner, inner <:+ v ∧ after = inner ++ w := by
  rw [List.append_assoc] at h
  rcases List.append_eq_append_iff.mp h with ⟨x, hbefore, hvw⟩ | ⟨x, hu, hafter⟩
  · rcases List.append_eq_append_iff.mp hvw with ⟨y, hx, -⟩ | ⟨inner, hv, hafter⟩
    · have hlen := congrArg byteLength hbefore
      rw [hx, byteLength_append, byteLength_append] at hlen
      omega
    · exact ⟨inner, ⟨x, hv.symm⟩, hafter⟩
  · have hlen := congrArg byteLength hu
    rw [byteLength_append] at hlen
    obtain rfl : x = [] := byteLength_eq_zero_iff.mp (by omega)
    exact ⟨v, List.suffix_refl v, hafter⟩

end Text

namespace Problem

/-- Hands a sink the problems and passes over all else. -/
def handTo {σ : Type} (report : σ → Problem → σ) : Listener σ
  | heard, .reported problem => report heard problem
  | heard, _ => heard

theorem foldl_handTo {σ : Type} (report : σ → Problem → σ) (events : List Event) (heard : σ) :
    events.foldl (handTo report) heard = (events.filterMap Event.problem?).foldl report heard := by
  induction events generalizing heard with
  | nil => rfl
  | cons e events ih =>
    rw [List.foldl_cons, ih]
    cases e <;> rfl

/-- A byte position that the digits of a reported number cover. -/
def Covers (problem : Problem) (b : Nat) : Prop :=
  ∃ digits, problem.cause = .numberTooLarge digits ∧ problem.position ≤ b ∧
    b < problem.position + byteLength digits

end Problem

theorem tokenize_handTo (source : Text) {σ : Type} (report : σ → Problem → σ) (heard : σ) :
    tokenize (Problem.handTo report) source heard =
      ((scan source).tokens, (scan source).problems.foldl report heard) := by
  rw [tokenize_eq, Problem.foldl_handTo, filterMap_problem?_eventsFrom, tokens_scan, problems_scan]
  rfl

/-! ## The value of a token -/

namespace Lexeme

theorem value_tokenAt_of_ne {l : Lexeme} {p : Nat} (h : (l.tokenAt p).kind ≠ .number) :
    (l.tokenAt p).value = none := by
  cases l with
  | number digits => exact absurd rfl h
  | blank | symbol | word | quoted | cutOff | openQuote | stray => rfl

theorem value_number_eq_some_iff (digits : Text) (p : Nat) (n : Int) :
    ((number digits).tokenAt p).value = some n ↔ n = Text.denoted digits ∧ n ≤ 2147483647 := by
  simp only [tokenAt, value?, largestValue, Text.ofDecimal_eq_denoted, Option.map_eq_some_iff,
    Option.ite_none_right_eq_some, Option.some.injEq, Int.ofNat_eq_natCast]
  constructor
  · rintro ⟨m, ⟨hle, rfl⟩, rfl⟩
    exact ⟨rfl, by omega⟩
  · rintro ⟨rfl, hle⟩
    exact ⟨_, ⟨by omega, rfl⟩, rfl⟩

end Lexeme

/-! ## Where problems stand -/

variable {source : Text} {problem : Problem}

/-- A problem comes from a step that makes a number, and covers just the bytes of this step. -/
theorem exists_number_of_mem_problems (h : problem ∈ (scan source).problems) :
    ∃ i digits, (lexemes source)[i]? = some (number digits) ∧
      problem = { cause := .numberTooLarge digits, position := reached source i } := by
  rw [problems_scan_eq_filterMap] at h
  obtain ⟨t, ht, hp⟩ := List.mem_filterMap.mp h
  obtain ⟨i, l, hl, rfl⟩ | rfl := exists_step_of_mem_tokens ht
  · rw [Token.tooLarge?] at hp
    split at hp
    · rename_i hk
      obtain ⟨digits, rfl⟩ := eq_number_of_kind hk.1
      exact ⟨i, digits, hl, (Option.some.inj hp).symm⟩
    · cases hp
  · cases hp

theorem covers_iff {digits : Text} {p b : Nat} :
    Problem.Covers ⟨.numberTooLarge digits, p⟩ b ↔ p ≤ b ∧ b < p + byteLength digits := by
  simp [Problem.Covers]

/-- No byte of a step that makes something else is covered. -/
theorem not_covers_of_kind_ne (h : problem ∈ (scan source).problems) {i : Nat}
    (hi : i < (lexemes source).length) (hk : (answer source i).kind ≠ .number) {b : Nat}
    (hlo : reached source i ≤ b) (hhi : b < reached source (i + 1)) : ¬problem.Covers b := by
  obtain ⟨j, digits, hl, rfl⟩ := exists_number_of_mem_problems h
  have hj := (List.getElem?_eq_some_iff.mp hl).1
  rw [covers_iff, show byteLength digits = byteLength (number digits).spelling from rfl,
    ← reached_succ hl]
  intro hb
  have hbytes : b < byteLength source := by
    rw [← reached_of_length_le (Nat.le_refl (lexemes source).length)]
    exact Nat.lt_of_lt_of_le hhi (reached_mono source hi)
  obtain rfl : i = j := (existsUnique_reached hbytes).unique ⟨hi, hlo, hhi⟩ ⟨hj, hb⟩
  exact hk (by rw [answer_of_getElem? hl]; rfl)

/-- Behind a digit that a problem covers the digits end where a number may. -/
theorem endsNumber_of_covers (h : problem ∈ (scan source).problems) {before after : Text} {c : Char}
    (hc : c.isDigit = true) (hs : source = before ++ c :: after)
    (hcov : problem.Covers (byteLength before)) :
    endsNumber (after.dropWhile Char.isDigit) = true := by
  obtain ⟨i, digits, hl, rfl⟩ := exists_number_of_mem_problems h
  rw [covers_iff, reached_eq] at hcov
  have hfit := (fitBefore_lexemes source).getElem hl
  rw [List.append_nil] at hfit
  rw [source_eq_of_getElem? hl] at hs
  -- the digit is one of the number's, so both runs of digits go on to the same place
  obtain ⟨inner, hinner, hrest⟩ := Text.exists_suffix hs hcov.1 hcov.2
  have hdrop := Text.dropWhile_run (fun d hd => hfit.wellFormed.2 d (hinner.subset hd))
    (startsWith_isDigit_of_endsNumber hfit.endsBefore)
  rw [← hrest, List.dropWhile_cons_of_pos hc] at hdrop
  rw [hdrop]
  exact hfit.endsBefore

/-- The numbers of a text are decoded exactly, and just those without a value are reported. -/
structure NumbersExact (source : Text) : Prop where
  /-- Any sink is handed the problems of the scan, one after the other. -/
  handed : ∀ {σ : Type} (report : σ → Problem → σ) (heard : σ),
    tokenize (Problem.handTo report) source heard =
      ((scan source).tokens, (scan source).problems.foldl report heard)
  /-- These are the numbers without a value. -/
  problems_eq : (scan source).problems =
    ((scan source).tokens.filter fun t => t.kind = .number ∧ t.value = none).map fun t =>
      { cause := .numberTooLarge t.text, position := t.position }
  digits : ∀ t ∈ (scan source).tokens, t.kind = .number →
    t.text ≠ [] ∧ ∀ c ∈ t.text, c.isDigit = true
  value : ∀ t ∈ (scan source).tokens, t.kind = .number → ∀ n : Int,
    t.value = some n ↔ n = Text.denoted t.text ∧ n ≤ 2147483647
  value_of_ne : ∀ t ∈ (scan source).tokens, t.kind ≠ .number → t.value = none
  /-- Nothing is reported of what a step passes over on the way to a token that is no number: a bad
  digit, a word, a string, or one that its line end cuts off. -/
  other : ∀ problem ∈ (scan source).problems, ∀ i t, (scan source).tokens[i]? = some t →
    t.kind ≠ .number → ∀ b, reached source i ≤ b → b < reached source (i + 1) → ¬problem.Covers b
  /-- Nothing is reported of digits that run into a character other than whitespace. -/
  rejected : ∀ problem ∈ (scan source).problems, ∀ before c after,
    source = before ++ c :: after → c.isDigit = true →
    (∃ d tail, after.dropWhile Char.isDigit = d :: tail ∧ isBlank d = false) →
    ¬problem.Covers (byteLength before)

/-- What holds of the tokens that lexemes make, and of the end token, holds of all tokens. -/
theorem forall_mem_tokens {P : Token → Prop} (hend : P (.endAt (byteLength source)))
    (hl : ∀ l ∈ lexemes source, l.WellFormed → ∀ p, P (l.tokenAt p)) :
    ∀ t ∈ (scan source).tokens, P t := by
  intro t ht
  rw [tokens_scan] at ht
  rcases List.mem_append.mp ht with ht | ht
  · obtain ⟨l, hmem, p, rfl⟩ := mem_tokensFrom ht
    exact hl l hmem ((fitBefore_lexemes source).wellFormed l hmem) p
  · obtain rfl := List.mem_singleton.mp ht
    exact hend

theorem problems_scan_eq_map (source : Text) :
    (scan source).problems =
      ((scan source).tokens.filter fun t => t.kind = .number ∧ t.value = none).map fun t =>
        { cause := .numberTooLarge t.text, position := t.position } := by
  rw [problems_scan_eq_filterMap]
  induction (scan source).tokens with
  | nil => rfl
  | cons t ts ih =>
    rw [List.filterMap_cons, List.filter_cons, ih, Token.tooLarge?]
    by_cases h : t.kind = .number ∧ t.value = none
    · simp [h]
    · simp [h]

theorem numbers_exact (source : Text) : NumbersExact source where
  handed := tokenize_handTo source
  problems_eq := problems_scan_eq_map source
  digits := by
    refine forall_mem_tokens (by simp [Token.endAt]) ?_
    intro l _ hw p hk
    obtain ⟨digits, rfl⟩ := eq_number_of_kind hk
    exact hw
  value := by
    refine forall_mem_tokens (by simp [Token.endAt]) ?_
    intro l _ _ p hk
    obtain ⟨digits, rfl⟩ := eq_number_of_kind hk
    exact value_number_eq_some_iff digits p
  value_of_ne := forall_mem_tokens (fun _ => rfl) fun _ _ _ _ => value_tokenAt_of_ne
  other := by
    intro problem hp i t ht hk b hlo hhi
    have hi : i < (lexemes source).length := by
      by_contra hi
      rw [reached_of_length_le (Nat.le_of_not_lt hi)] at hlo
      rw [reached_of_length_le (by omega)] at hhi
      omega
    obtain rfl : answer source i = t := by
      rw [tokens_eq_map_answer, List.getElem?_map, List.getElem?_range (by omega)] at ht
      exact Option.some.inj ht
    exact not_covers_of_kind_ne hp hi hk hlo hhi
  rejected := by
    rintro problem hp before c after hs hc ⟨d, tail, hdrop, hd⟩ hcov
    have hend := endsNumber_of_covers hp hc hs hcov
    rw [hdrop, endsNumber, hd] at hend
    cases hend

end ScriptScan
