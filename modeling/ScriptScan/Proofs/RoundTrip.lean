import ScriptScan.Proofs.Scan
import Mathlib.Data.List.Chain

/-! # Reading back what was written

Whoever writes a script chooses lexemes and writes their spellings one after the other. The scan
gives back the same lexemes as long as no two neighbours run into each other. Which neighbours do
is decided by the two alone (`mayMeet`), since what a lexeme must not be followed by shows in the
first character of the next. -/

namespace ScriptScan
open Lexeme
open Text (byteLength isBlank isWordStart isWordPart startsWith)

namespace Lexeme

/-- Characters are checked one by one, not by a search through all characters there are. -/
instance (p : Char → Bool) (b : Bool) (t : Text) : Decidable (∀ c ∈ t, p c = b) :=
  List.decidableBAll _ t

instance : DecidablePred WellFormed
  | number _ | blank _ | word _ | cutOff .. => inferInstanceAs (Decidable (_ ∧ _))
  | quoted content => inferInstanceAs (Decidable (∀ c ∈ content, settlesString c = false))
  | symbol _ | openQuote => isTrue trivial
  | stray _ => inferInstanceAs (Decidable (_ ∧ _ ∧ _ ∧ _))

/-- A lexeme that can be written on purpose: a number, a word, a string, whitespace or a symbol. -/
def Proper (l : Lexeme) : Prop := l.WellFormed ∧ l.kind ≠ .bad

instance (l : Lexeme) : Decidable l.Proper := inferInstanceAs (Decidable (_ ∧ _))

/-- Two lexemes that do not run into each other when one stands right behind the other. -/
def mayMeet : Lexeme → Lexeme → Bool
  | blank _, blank _ => false
  | word _, word _ => false
  | word _, number _ => false
  | number _, blank _ => true
  | number _, _ => false
  | symbol .equal, symbol .equal | symbol .equal, symbol .equalEqual => false
  | symbol .bang, symbol .equal | symbol .bang, symbol .equalEqual => false
  | _, _ => true

/-- The token that the lexeme is read back as: its kind, its text and its value. -/
def ReadAs (t : Token) : Lexeme → Prop
  | number digits => t.kind = .number ∧ t.text = digits ∧
      t.value = if Text.ofDecimal digits ≤ 2147483647 then some (Text.ofDecimal digits : Int)
        else none
  | blank run => t.kind = .whitespace ∧ t.text = run ∧ t.value = none
  | symbol s => t.kind = .symbol s ∧ t.text = s.spelling ∧ t.value = none
  | word text => (∀ k : Keyword, k.spelling = text → t.kind = .keyword k) ∧
      ((∀ k : Keyword, k.spelling ≠ text) → t.kind = .identifier) ∧ t.text = text ∧ t.value = none
  | quoted content => t.kind = .string ∧ t.text = content ∧ t.value = none
  | cutOff .. | openQuote | stray _ => False

/-! ## The first character of a lexeme -/

/-- The first character of a proper lexeme lies outside a class if the class has no character in
common with those that start lexemes of its kind. -/
theorem startsWith_spelling {l : Lexeme} (h : l.Proper) {p : Char → Bool}
    (hnumber : ∀ digits, l = number digits → ∀ c, c.isDigit = true → p c = false)
    (hblank : ∀ run, l = blank run → ∀ c, isBlank c = true → p c = false)
    (hsymbol : ∀ s, l = symbol s → startsWith p s.spelling = false)
    (hword : ∀ text, l = word text → ∀ c, isWordStart c = true → p c = false)
    (hquote : p '"' = false) : startsWith p l.spelling = false := by
  obtain ⟨hw, hk⟩ := h
  cases l with
  | number digits =>
    obtain ⟨hne, hd⟩ := hw
    obtain ⟨d, ds, rfl⟩ := List.exists_cons_of_ne_nil hne
    exact hnumber _ rfl d (hd d (by simp))
  | blank run =>
    obtain ⟨hne, hb⟩ := hw
    obtain ⟨d, ds, rfl⟩ := List.exists_cons_of_ne_nil hne
    exact hblank _ rfl d (hb d (by simp))
  | symbol s => exact hsymbol s rfl
  | word text =>
    cases text with
    | nil => rfl
    | cons d ds => exact hword _ rfl d hw.1
  | quoted content => exact hquote
  | cutOff | openQuote | stray => exact absurd rfl hk

/-- Only whitespace starts with a blank. -/
theorem startsWith_isBlank_spelling {l : Lexeme} (h : l.Proper) (hb : ∀ run, l ≠ blank run) :
    startsWith isBlank l.spelling = false := by
  apply startsWith_spelling h
  · exact fun _ _ _ => Text.isBlank_eq_false_of_isDigit
  · exact fun run hl => absurd hl (hb run)
  · exact fun s _ => by cases s <;> decide
  · exact fun _ _ _ hc => Text.isBlank_eq_false_of_isWordPart (Text.isWordPart_of_isWordStart hc)
  · decide

/-- Only words and numbers start with a character that continues a word. -/
theorem startsWith_isWordPart_spelling {l : Lexeme} (h : l.Proper) (hw : ∀ text, l ≠ word text)
    (hn : ∀ digits, l ≠ number digits) : startsWith isWordPart l.spelling = false := by
  apply startsWith_spelling h
  · exact fun digits hl => absurd hl (hn digits)
  · exact fun _ _ _ => Text.isWordPart_eq_false_of_isBlank
  · exact fun s _ => by cases s <;> decide
  · exact fun text hl => absurd hl (hw text)
  · decide

/-- Only `=` and `==` start with the sign that makes `=` and `!` grow. -/
theorem startsWith_equal_spelling {l : Lexeme} (h : l.Proper) (he : l ≠ symbol .equal)
    (hee : l ≠ symbol .equalEqual) : startsWith (· == '=') l.spelling = false := by
  have hmark : ∀ {c : Char}, c ∉ Symbol.marks → (c == '=') = false := by
    intro c hc
    refine beq_eq_false_iff_ne.mpr ?_
    intro hq
    exact hc (by simp [hq, Symbol.marks, Symbol.singles])
  apply startsWith_spelling h
  · exact fun _ _ c hc => hmark (Symbol.not_mem_marks (.inl hc))
  · exact fun _ _ c hc => hmark (Symbol.not_mem_marks (.inr (.inl hc)))
  · intro s hs
    subst hs
    cases s
    case equal => exact absurd rfl he
    case equalEqual => exact absurd rfl hee
    all_goals decide
  · exact fun _ _ c hc => hmark (Symbol.not_mem_marks (.inr (.inr hc)))
  · decide

/-- What a lexeme must not be followed by shows in its neighbour. -/
theorem endsBefore_of_mayMeet {l m : Lexeme} (hl : l.Proper) (hm : m.Proper)
    (h : l.mayMeet m = true) (rest : Text) : l.EndsBefore (m.spelling ++ rest) := by
  have hne := hm.1.spelling_ne_nil
  cases l with
  | number digits =>
    cases m with
    | blank run =>
      refine endsNumber_eq_true_iff.mpr (.inr ?_)
      obtain ⟨hr, hb⟩ := hm.1
      obtain ⟨d, ds, rfl⟩ := List.exists_cons_of_ne_nil hr
      exact hb d (by simp)
    | number | symbol | word | quoted | cutOff | openQuote | stray => cases h
  | blank run =>
    show startsWith isBlank _ = false
    rw [Text.startsWith_append hne]
    apply startsWith_isBlank_spelling hm
    intro run hm
    subst hm
    cases h
  | symbol s =>
    intro hs
    rw [Text.startsWith_append hne]
    apply startsWith_equal_spelling hm
    all_goals
      intro hm
      subst hm
      rcases hs with rfl | rfl <;> cases h
  | word text =>
    show startsWith isWordPart _ = false
    rw [Text.startsWith_append hne]
    apply startsWith_isWordPart_spelling hm
    all_goals
      intro text hm
      subst hm
      cases h
  | quoted content => trivial
  | cutOff | openQuote | stray => exact absurd rfl hl.2

/-- At the end of the text a lexeme runs into nothing. -/
theorem endsBefore_nil {l : Lexeme} (hl : l.Proper) : l.EndsBefore [] := by
  cases l with
  | number | blank | word => rfl
  | symbol s => exact fun _ => rfl
  | quoted => trivial
  | cutOff | openQuote | stray => exact absurd rfl hl.2

theorem fitBefore_of_isChain {ls : List Lexeme} (hp : ∀ l ∈ ls, l.Proper)
    (hc : ls.IsChain (mayMeet · ·)) : FitBefore [] ls := by
  induction ls with
  | nil => trivial
  | cons l ls ih =>
    obtain ⟨hl, hls⟩ := List.forall_mem_cons.mp hp
    obtain ⟨hhead, htail⟩ := List.isChain_cons.mp hc
    refine ⟨⟨hl.1, ?_⟩, ih hls htail⟩
    cases ls with
    | nil => exact endsBefore_nil hl
    | cons m ms =>
      rw [spellings_cons, List.append_assoc]
      exact endsBefore_of_mayMeet hl (hls m (by simp)) (hhead m rfl) _

/-! ## What is read back -/

theorem readAs_tokenAt {l : Lexeme} (h : l.Proper) (position : Nat) :
    ReadAs (l.tokenAt position) l := by
  cases l with
  | number digits =>
    refine ⟨rfl, rfl, ?_⟩
    by_cases hn : Text.ofDecimal digits ≤ 2147483647
    · simp [tokenAt, value?, largestValue, hn]
    · simp [tokenAt, value?, largestValue, hn]
  | blank | symbol | quoted => exact ⟨rfl, rfl, rfl⟩
  | word text =>
    refine ⟨?_, ?_, rfl, rfl⟩
    · intro k hk
      simp [tokenAt, kind, Keyword.ofText?_eq_some_iff.mpr hk]
    · intro hk
      have hn : Keyword.ofText? text = none :=
        Option.eq_none_iff_forall_ne_some.mpr fun k h => hk k (Keyword.ofText?_eq_some_iff.mp h)
      simp [tokenAt, kind, hn]
  | cutOff | openQuote | stray => exact absurd rfl h.2

theorem position_tokenAt {l : Lexeme} (h : l.Proper) (position : Nat) :
    (l.tokenAt position).position = position := by
  cases l with
  | cutOff | openQuote | stray => exact absurd rfl h.2
  | number | blank | symbol | word | quoted => rfl

end Lexeme

/-- Proper lexemes whose neighbours may meet are read back from what they spell: one token for
each, at the byte length of what stands before it, and the end token. The problems are those of
the numbers that are too large. -/
theorem scan_spellings {ls : List Lexeme} (hp : ∀ l ∈ ls, l.Proper)
    (hc : ls.IsChain (mayMeet · ·)) :
    (scan (spellings ls)).tokens.length = ls.length + 1 ∧
      (∀ i l, ls[i]? = some l → ∃ t, (scan (spellings ls)).tokens[i]? = some t ∧
        ReadAs t l ∧ t.position = byteLength (spellings (ls.take i))) ∧
      (scan (spellings ls)).tokens[ls.length]? = some (.endAt (byteLength (spellings ls))) ∧
      (scan (spellings ls)).problems = problemsFrom 0 ls := by
  have hls : lexemes (spellings ls) = ls :=
    lexemes_eq_iff.mpr ⟨rfl, fitBefore_of_isChain hp hc⟩
  rw [tokens_scan, problems_scan, hls]
  refine ⟨by simp, ?_, by simp, rfl⟩
  intro i l hl
  obtain ⟨hi, rfl⟩ := List.getElem?_eq_some_iff.mp hl
  have hprop := hp _ (List.getElem_mem hi)
  refine ⟨_, ?_, readAs_tokenAt hprop _, position_tokenAt hprop _⟩
  rw [List.getElem?_append_left (by simpa using hi), getElem?_tokensFrom hl, Nat.zero_add]

/-- The script `let é2=!="a b"9999999999 !!===` as a list of lexemes. -/
def sampleLexemes : List Lexeme :=
  [word "let".toList, blank [' '], word ['é', '2'], symbol .equal, symbol .bangEqual,
    quoted "a b".toList, number "9999999999".toList, blank [' '], symbol .bang, symbol .bangEqual,
    symbol .equalEqual]

theorem scan_spellings_sample :
    (∀ l ∈ sampleLexemes, l.Proper) ∧ sampleLexemes.IsChain (mayMeet · ·) ∧
      (scan (spellings sampleLexemes)).tokens.length = 12 ∧
      (scan (spellings sampleLexemes)).problems =
        [{ cause := .numberTooLarge "9999999999".toList, position := 15 }] := by
  have hp : ∀ l ∈ sampleLexemes, l.Proper := by decide +kernel
  have hc : sampleLexemes.IsChain (mayMeet · ·) := by decide +kernel
  obtain ⟨hlen, -, -, hproblems⟩ := scan_spellings hp hc
  exact ⟨hp, hc, hlen, hproblems.trans (by decide +kernel)⟩

end ScriptScan
