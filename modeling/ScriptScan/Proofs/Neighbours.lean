import ScriptScan.Proofs.Scan
import Mathlib.Data.List.Chain

/-! # No token could have been longer

What ends a lexeme shows in the first character behind it, and the first character of a lexeme tells
of what kind it can be (`Opens`). So the kinds of two neighbours exclude each other where the first
would have read on into the second. For a digit that belongs to no number one character is not
enough: a number right behind it would end where the digit's own run does, and that run was
rejected for its end. -/

namespace ScriptScan
open Lexeme
open Text (byteLength isBlank isWordPart isLetter isNumeral isLineEnd startsWith)

/-- Words are identifiers and keywords. -/
def Kind.isWord : Kind → Bool
  | identifier | keyword _ => true
  | _ => false

/-- A bad token with the character is a single one: `u` is neither another nor the symbol of
two. -/
def Token.Single (c : Char) (double : Symbol) (t u : Token) : Prop :=
  t.kind = .bad → c ∈ t.text → ¬(u.kind = .bad ∧ c ∈ u.text) ∧ u.kind ≠ .symbol double

/-- What a token `u` right behind `t` must not be, as `t` would have been longer. -/
structure Token.Apart (t u : Token) : Prop where
  whitespace : t.kind = .whitespace → u.kind ≠ .whitespace
  word : t.kind.isWord = true → u.kind.isWord = false ∧ u.kind ≠ .number ∧
    (u.kind = .bad → ∀ c ∈ u.text, isLetter c = false ∧ isNumeral c = false)
  number : t.kind = .number → u.kind = .whitespace ∨ u.kind = .endOfText
  digit : t.kind = .bad → (∃ c ∈ t.text, c.isDigit = true) →
    u.kind ≠ .whitespace ∧ u.kind ≠ .number ∧ u.kind ≠ .endOfText
  equal : t.kind = .symbol .equal ∨ t.kind = .symbol .bang →
    u.kind ≠ .symbol .equal ∧ u.kind ≠ .symbol .equalEqual
  ampersand : t.Single '&' .andAnd u
  bar : t.Single '|' .orOr u

namespace Lexeme

/-- What a lexeme can be, told from its first character. -/
structure Opens (l : Lexeme) (c : Char) : Prop where
  blank : l.kind = .whitespace → isBlank c = true
  word : l.kind.isWord = true → isWordPart c = true
  number : l.kind = .number → c.isDigit = true
  symbol : ∀ s, l.kind = .symbol s → s.spelling.head? = some c
  bad : l.kind = .bad → ∀ d ∈ l.text, d = c ∨ isLineEnd d = true

theorem exists_opens {l : Lexeme} (hw : l.WellFormed) :
    ∃ c tail, l.spelling = c :: tail ∧ l.Opens c := by
  cases l with
  | number digits =>
    obtain ⟨hne, hd⟩ := hw
    obtain ⟨c, tail, rfl⟩ := List.exists_cons_of_ne_nil hne
    exact ⟨c, tail, rfl, nofun, nofun, fun _ => hd c (by simp), nofun, nofun⟩
  | blank run =>
    obtain ⟨hne, hb⟩ := hw
    obtain ⟨c, tail, rfl⟩ := List.exists_cons_of_ne_nil hne
    exact ⟨c, tail, rfl, fun _ => hb c (by simp), nofun, nofun, nofun, nofun⟩
  | symbol s =>
    obtain ⟨c, tail, hs⟩ := List.exists_cons_of_ne_nil s.spelling_ne_nil
    refine ⟨c, tail, hs, nofun, nofun, nofun, ?_, nofun⟩
    intro s' h
    obtain rfl : s = s' := Kind.symbol.inj h
    rw [hs, List.head?_cons]
  | word text =>
    cases text with
    | nil => cases hw.1
    | cons c tail =>
      have hp := Text.isWordPart_of_isWordStart hw.1
      rcases kind_word (c :: tail) with hk | ⟨k, hk⟩
      all_goals exact ⟨c, tail, rfl, by simp [hk], fun _ => hp, by simp [hk], by simp [hk],
        by simp [hk]⟩
  | quoted content => exact ⟨'"', _, rfl, nofun, nofun, nofun, nofun, nofun⟩
  | cutOff content lineEnd =>
    refine ⟨'"', _, rfl, nofun, nofun, nofun, nofun, fun _ d hd => .inr ?_⟩
    rw [List.mem_singleton.mp hd]
    exact hw.2
  | openQuote =>
    exact ⟨'"', [], rfl, nofun, nofun, nofun, nofun, fun _ d hd => .inl (List.mem_singleton.mp hd)⟩
  | stray c =>
    exact ⟨c, [], rfl, nofun, nofun, nofun, nofun, fun _ d hd => .inl (List.mem_singleton.mp hd)⟩

/-- A bad token with a character that ends no line and is no quote is that character. -/
theorem eq_stray_of_mem {l : Lexeme} (hw : l.WellFormed) (hk : l.kind = .bad) {c : Char}
    (hc : c ∈ l.text) (hs : settlesString c = false) : l = stray c := by
  have hl := l.inv_kind
  rw [hk] at hl
  rcases hl with ⟨content, lineEnd, rfl⟩ | rfl | ⟨d, rfl⟩
  · obtain rfl := List.mem_singleton.mp hc
    rw [settlesString_of_isLineEnd hw.2] at hs
    cases hs
  · obtain rfl := List.mem_singleton.mp hc
    cases hs
  · rw [List.mem_singleton.mp hc]

/-! ## Neighbours exclude each other -/

section
variable {l m : Lexeme} {c : Char} {rest : Text} (hl : l.Fits (c :: rest)) (hm : m.Opens c)
include hl hm

theorem whitespace_apart (hk : l.kind = .whitespace) : m.kind ≠ .whitespace := by
  obtain ⟨run, rfl⟩ := eq_blank_of_kind hk
  have hc : isBlank c = false := hl.endsBefore
  intro hm'
  rw [hm.blank hm'] at hc
  cases hc

theorem word_apart (hk : l.kind.isWord = true) :
    m.kind.isWord = false ∧ m.kind ≠ .number ∧
      (m.kind = .bad → ∀ d ∈ m.text, isLetter d = false ∧ isNumeral d = false) := by
  have hc : isWordPart c = false := by
    cases l with
    | word text => exact hl.endsBefore
    | number | blank | symbol | quoted | cutOff | openQuote | stray => cases hk
  refine ⟨?_, ?_, ?_⟩
  · by_contra hm'
    rw [hm.word (by simpa using hm')] at hc
    cases hc
  · intro hm'
    rw [Text.isWordPart_of_isDigit (hm.number hm')] at hc
    cases hc
  · intro hm' d hd
    have hd : isWordPart d = false := by
      rcases hm.bad hm' d hd with rfl | hend
      · exact hc
      · exact Text.isWordPart_eq_false_of_isBlank (Text.isBlank_of_isLineEnd hend)
    simp only [isWordPart, Bool.or_eq_false_iff] at hd
    exact hd.1

theorem equal_apart (hk : l.kind = .symbol .equal ∨ l.kind = .symbol .bang) :
    m.kind ≠ .symbol .equal ∧ m.kind ≠ .symbol .equalEqual := by
  have hc : c ≠ '=' := by
    rcases hk with hk | hk
    all_goals
      obtain rfl := eq_symbol_of_kind hk
      simpa using hl.endsBefore (by simp)
  constructor
  all_goals
    intro hm'
    have := Option.some.inj (hm.symbol _ hm')
    exact hc this.symm

/-- A lone `&` or `|` has no other one behind it. -/
theorem single_apart {d : Char} (hd : d = '&' ∨ d = '|') {double : Symbol}
    (hs : double.spelling = [d, d]) (p q : Nat) :
    (l.tokenAt p).Single d double (m.tokenAt q) := by
  intro hk hmem
  obtain rfl : l = stray d := by
    refine eq_stray_of_mem hl.wellFormed hk hmem ?_
    rcases hd with rfl | rfl <;> rfl
  have hc : c ≠ d := by simpa using hl.endsBefore.2 hd
  refine ⟨?_, ?_⟩
  · rintro ⟨hm', hmem'⟩
    rcases hm.bad hm' d hmem' with rfl | hend
    · exact hc rfl
    · rcases hd with rfl | rfl <;> cases hend
  · intro hm'
    have := hm.symbol double hm'
    rw [hs] at this
    exact hc (Option.some.inj this).symm

end

theorem settlesString_of_isDigit {c : Char} (h : c.isDigit = true) : settlesString c = false := by
  rw [settlesString_eq_false_iff]
  refine ⟨?_, ?_, ?_⟩
  all_goals
    rintro rfl
    cases h

section
variable {l m : Lexeme} {rest : Text} (hl : l.Fits (m.spelling ++ rest)) (hm : m.Fits rest)
include hl hm

theorem number_apart (hk : l.kind = .number) : m.kind = .whitespace := by
  obtain ⟨digits, rfl⟩ := eq_number_of_kind hk
  obtain ⟨c, tail, hc⟩ := List.exists_cons_of_ne_nil hm.wellFormed.spelling_ne_nil
  have hblank : isBlank c = true := by simpa [hc] using endsNumber_eq_true_iff.mp hl.endsBefore
  have hread : Lexeme.read c (tail ++ rest) = (m, rest) :=
    read_of_fits hm (by rw [hc, List.cons_append])
  rw [read_of_isBlank hblank] at hread
  rw [← (Prod.mk.inj hread).1]
  rfl

/-- A digit that is no number has its run end in a character that is not whitespace, and that still
ends the run for the digits behind it. -/
theorem digit_apart (hk : l.kind = .bad) (hd : ∃ d ∈ l.text, d.isDigit = true) :
    m.kind ≠ .whitespace ∧ m.kind ≠ .number := by
  obtain ⟨d, hmem, hd⟩ := hd
  obtain rfl := eq_stray_of_mem hl.wellFormed hk hmem (settlesString_of_isDigit hd)
  have hend : endsNumber ((m.spelling ++ rest).dropWhile Char.isDigit) = false := hl.endsBefore.1 hd
  constructor
  · intro hm'
    obtain ⟨run, rfl⟩ := eq_blank_of_kind hm'
    obtain ⟨c, tail, hc, hopens⟩ := exists_opens hm.wellFormed
    have hblank := hopens.blank rfl
    rw [hc, List.cons_append, List.dropWhile_cons_of_neg
      (by simp [Text.isDigit_eq_false_of_isBlank hblank]), endsNumber, hblank] at hend
    cases hend
  · intro hm'
    obtain ⟨digits, rfl⟩ := eq_number_of_kind hm'
    have hrest : endsNumber rest = true := hm.endsBefore
    rw [spelling, Text.dropWhile_run hm.wellFormed.2 (startsWith_isDigit_of_endsNumber hrest),
      hrest] at hend
    cases hend

theorem apart_tokenAt (p q : Nat) : (l.tokenAt p).Apart (m.tokenAt q) := by
  obtain ⟨c, tail, hc, hopens⟩ := exists_opens hm.wellFormed
  have hl' : l.Fits (c :: (tail ++ rest)) := by rwa [hc] at hl
  exact {
    whitespace := whitespace_apart hl' hopens
    word := word_apart hl' hopens
    number := fun hk => .inl (number_apart hl hm hk)
    digit := fun hk hd =>
      ⟨(digit_apart hl hm hk hd).1, (digit_apart hl hm hk hd).2, m.kind_ne_endOfText⟩
    equal := equal_apart hl' hopens
    ampersand := single_apart hl' hopens (.inl rfl) rfl p q
    bar := single_apart hl' hopens (.inr rfl) rfl p q }

end

/-- At the end of the text only a digit could object, and there it is a number. -/
theorem apart_endAt {l : Lexeme} (hl : l.Fits []) (p q : Nat) :
    (l.tokenAt p).Apart (.endAt q) where
  whitespace := nofun
  word _ := ⟨rfl, nofun, nofun⟩
  number _ := .inr rfl
  digit hk hd := by
    obtain ⟨d, hmem, hd⟩ := hd
    obtain rfl := eq_stray_of_mem hl.wellFormed hk hmem (settlesString_of_isDigit hd)
    have := hl.endsBefore.1 hd
    cases this
  equal _ := ⟨nofun, nofun⟩
  ampersand _ _ := ⟨nofun, nofun⟩
  bar _ _ := ⟨nofun, nofun⟩

theorem isChain_tokensFrom {ls : List Lexeme} (h : FitBefore [] ls) (p q : Nat) :
    (tokensFrom p ls ++ [Token.endAt q]).IsChain Token.Apart := by
  induction ls generalizing p with
  | nil => exact .singleton _
  | cons l ls ih =>
    obtain ⟨hl, hls⟩ := h
    refine List.IsChain.cons (ih hls (p + byteLength l.spelling)) ?_
    intro u hu
    cases ls with
    | nil =>
      obtain rfl : Token.endAt q = u := Option.some.inj hu
      exact apart_endAt hl p q
    | cons m ms =>
      obtain rfl : m.tokenAt (p + byteLength l.spelling) = u := Option.some.inj hu
      rw [spellings_cons, List.append_assoc] at hl
      exact apart_tokenAt hl hls.1 p _

end Lexeme

/-- Any two neighbours among the tokens of a text are apart, and the end token comes last. -/
theorem tokens_apart (source : Text) :
    (scan source).tokens.IsChain Token.Apart ∧
      ∃ tokens last, (scan source).tokens = tokens ++ [last] ∧ last.kind = .endOfText ∧
        ∀ t ∈ tokens, t.kind ≠ .endOfText := by
  rw [tokens_scan]
  exact ⟨isChain_tokensFrom (fitBefore_lexemes source) 0 _, _, _, rfl, rfl,
    fun _ => kind_ne_endOfText_of_mem⟩

end ScriptScan
