import ScriptScan.Proofs.Runs
import Mathlib.Tactic.ByContra

/-! # Which lexeme stands where

`Fits l rest` says that the lexeme `l` stands at the start of a text that goes on with `rest`. It
is a condition on the lexeme alone, and one on the start of `rest` that keeps the lexeme from
reading on. The reader takes a fitting lexeme (`read_fits`), and where one fits it takes that one
(`read_of_fits`), so a text starts with exactly one. -/

namespace ScriptScan
open Text (isBlank isWordStart isWordPart isLineEnd startsWith)

namespace Symbol

/-- The characters that are symbols by themselves. -/
def singles : List Char := ['+', '-', '*', '/', '(', ')', '!', '=']

/-- The characters that start a symbol or a string. -/
def marks : List Char := '"' :: '&' :: '|' :: singles

/-- The symbol does not grow into a longer one: `=` and `!` do in front of another `=`. -/
def EndsBefore (s : Symbol) (rest : Text) : Prop :=
  s = .equal ∨ s = .bang → startsWith (· == '=') rest = false

theorem first?_spelling {s : Symbol} {rest : Text} (h : s.EndsBefore rest) :
    first? (s.spelling ++ rest) = some s := by
  cases s
  case equal | bang =>
    cases rest with
    | nil => rfl
    | cons c rest =>
      have hc : c ≠ '=' := by simpa [EndsBefore] using h
      simp [first?, all, spelling, List.isPrefixOf, hc.symm]
  all_goals simp [first?, all, spelling, List.isPrefixOf]

theorem endsBefore_of_first? {s : Symbol} {rest : Text}
    (h : first? (s.spelling ++ rest) = some s) : s.EndsBefore rest := by
  rintro (rfl | rfl)
  all_goals
    cases rest with
    | nil => rfl
    | cons c rest =>
      by_contra hc
      obtain rfl : c = '=' := by simpa using hc
      simp [first?, all, spelling, List.isPrefixOf] at h

/-- What starts no symbol: any character but the symbols of one character, and `&` or `|` unless
the same character follows. -/
theorem first?_eq_none_iff {c : Char} {rest : Text} :
    first? (c :: rest) = none ↔
      c ∉ singles ∧ (c = '&' ∨ c = '|' → startsWith (· == c) rest = false) := by
  simp only [first?, all, spelling, singles, List.find?_eq_none, List.mem_cons, List.not_mem_nil,
    or_false, forall_eq_or_imp, forall_eq, List.isPrefixOf_iff_prefix, List.cons_prefix_cons,
    List.nil_prefix, and_true, not_and, not_or]
  cases rest with
  | nil => grind [Text.startsWith_nil]
  | cons d rest => grind [Text.startsWith_cons]

theorem not_mem_marks {c : Char}
    (h : c.isDigit = true ∨ isBlank c = true ∨ isWordStart c = true) : c ∉ marks := by
  have hall : marks.all (fun d => !d.isDigit && !isBlank d && !isWordStart d) = true := by decide
  intro hm
  have hc := List.all_eq_true.mp hall c hm
  simp only [Bool.and_eq_true, Bool.not_eq_true', and_assoc] at hc
  obtain ⟨hd, hb, hw⟩ := hc
  simp [hd, hb, hw] at h

theorem first?_eq_none_of_not_mem {c : Char} (h : c ∉ marks) (rest : Text) :
    first? (c :: rest) = none := by
  simp only [marks, List.mem_cons, not_or] at h
  obtain ⟨-, ha, ho, hs⟩ := h
  exact first?_eq_none_iff.mpr ⟨hs, by simp [ha, ho]⟩

/-- The first character of a symbol belongs to no class. -/
theorem spelling_eq_cons {s : Symbol} {c : Char} {tail rest : Text}
    (h : s.spelling ++ rest = c :: tail) : c.isDigit = false ∧ isBlank c = false := by
  cases s
  all_goals
    obtain ⟨rfl, -⟩ := List.cons.inj h
    decide

end Symbol

namespace Lexeme

/-- What the text of a lexeme has to be like, whatever surrounds it. -/
def WellFormed : Lexeme → Prop
  | number digits => digits ≠ [] ∧ ∀ c ∈ digits, c.isDigit = true
  | blank run => run ≠ [] ∧ ∀ c ∈ run, isBlank c = true
  | symbol _ => True
  | word text => startsWith isWordStart text = true ∧ ∀ c ∈ text, isWordPart c = true
  | quoted content => ∀ c ∈ content, settlesString c = false
  | cutOff content lineEnd =>
    (∀ c ∈ content, settlesString c = false) ∧ isLineEnd lineEnd = true
  | openQuote => True
  | stray c => isBlank c = false ∧ isWordStart c = false ∧ c ≠ '"' ∧ c ∉ Symbol.singles

/-- What may follow a lexeme, given that it is well formed. -/
def EndsBefore : Lexeme → Text → Prop
  | number _, rest => endsNumber rest = true
  | blank _, rest => startsWith isBlank rest = false
  | symbol s, rest => s.EndsBefore rest
  | word _, rest => startsWith isWordPart rest = false
  | quoted _, _ => True
  | cutOff .., _ => True
  | openQuote, rest => ∀ c ∈ rest, settlesString c = false
  | stray c, rest =>
    (c.isDigit = true → endsNumber (rest.dropWhile Char.isDigit) = false) ∧
      (c = '&' ∨ c = '|' → startsWith (· == c) rest = false)

/-- The lexeme stands at the start of a text that goes on with `rest`. -/
structure Fits (l : Lexeme) (rest : Text) : Prop where
  wellFormed : l.WellFormed
  endsBefore : l.EndsBefore rest

theorem endsNumber_eq_true_iff {t : Text} :
    endsNumber t = true ↔ t = [] ∨ startsWith isBlank t = true := by
  cases t <;> simp [endsNumber]

theorem startsWith_isDigit_of_endsNumber {t : Text} (h : endsNumber t = true) :
    startsWith Char.isDigit t = false := by
  cases t with
  | nil => rfl
  | cons c t => exact Text.isDigit_eq_false_of_isBlank h

theorem settlesString_eq_false_iff {c : Char} :
    settlesString c = false ↔ c ≠ '"' ∧ c ≠ '\n' ∧ c ≠ '\r' := by
  simp [settlesString, isLineEnd]

theorem settlesString_of_isLineEnd {c : Char} (h : isLineEnd c = true) :
    settlesString c = true := by
  simp [settlesString, h]

/-- The character that settles a string is its quote or a line end. -/
theorem isLineEnd_of_dropWhile {t after : Text} {c : Char}
    (h : t.dropWhile (!settlesString ·) = c :: after) (hq : c ≠ '"') : isLineEnd c = true := by
  have hs := Text.startsWith_dropWhile (p := (!settlesString ·)) t
  rw [h, Text.startsWith_cons] at hs
  simpa [settlesString, hq] using hs

theorem settlesString_of_mem_takeWhile {t : Text} {c : Char}
    (h : c ∈ t.takeWhile (!settlesString ·)) : settlesString c = false := by
  simpa using List.mem_takeWhile_imp h

/-! ## The reader takes a fitting lexeme -/

theorem readDigits_fits {c : Char} (hc : c.isDigit = true) (rest : Text) :
    (readDigits c rest).1.Fits (readDigits c rest).2 := by
  unfold readDigits
  split
  · exact ⟨⟨by simp, Text.forall_mem_cons_takeWhile hc rest⟩, ‹_›⟩
  · have hm := Symbol.not_mem_marks (.inl hc)
    simp only [Symbol.marks, List.mem_cons, not_or] at hm
    obtain ⟨hq, ha, ho, hs⟩ := hm
    exact ⟨⟨Text.isBlank_eq_false_of_isDigit hc, Text.isWordStart_eq_false_of_isDigit hc, hq, hs⟩,
      fun _ => Bool.eq_false_iff.mpr ‹_›, by simp [ha, ho]⟩

theorem readString_fits (rest : Text) : (readString rest).1.Fits (readString rest).2 := by
  unfold readString
  split
  · rename_i h
    exact ⟨trivial, fun c hc => by simpa using List.dropWhile_eq_nil_iff.mp h c hc⟩
  · exact ⟨fun _ => settlesString_of_mem_takeWhile, trivial⟩
  · rename_i c after hq h
    exact ⟨⟨fun _ => settlesString_of_mem_takeWhile, isLineEnd_of_dropWhile h hq⟩, trivial⟩

theorem read_fits (c : Char) (rest : Text) : (read c rest).1.Fits (read c rest).2 := by
  unfold read
  split
  · exact readDigits_fits ‹_› rest
  rename_i hd
  split
  · exact ⟨⟨by simp, Text.forall_mem_cons_takeWhile ‹_› rest⟩, Text.startsWith_dropWhile rest⟩
  rename_i hb
  split
  · rename_i s h
    refine ⟨trivial, Symbol.endsBefore_of_first? ?_⟩
    rwa [Symbol.spelling_append_drop h]
  rename_i hf
  split
  · exact readString_fits rest
  rename_i hq
  split
  · exact ⟨⟨‹_›, Text.forall_mem_cons_takeWhile (Text.isWordPart_of_isWordStart ‹_›) rest⟩,
      Text.startsWith_dropWhile rest⟩
  · rename_i hw
    obtain ⟨hs, hp⟩ := Symbol.first?_eq_none_iff.mp hf
    exact ⟨⟨Bool.eq_false_iff.mpr hb, Bool.eq_false_iff.mpr hw, hq, hs⟩,
      fun h => absurd h hd, hp⟩

/-! ## Where a lexeme fits, the reader takes it -/

theorem read_of_isDigit {c : Char} (h : c.isDigit = true) (rest : Text) :
    read c rest = readDigits c rest := by
  simp [read, h]

theorem read_of_isBlank {c : Char} (h : isBlank c = true) (rest : Text) :
    read c rest = (blank (c :: rest.takeWhile isBlank), rest.dropWhile isBlank) := by
  simp [read, Text.isDigit_eq_false_of_isBlank h, h]

theorem read_of_first? {c : Char} {rest : Text} {s : Symbol} (hd : c.isDigit = false)
    (hb : isBlank c = false) (h : Symbol.first? (c :: rest) = some s) :
    read c rest = (symbol s, (c :: rest).drop s.spelling.length) := by
  simp [read, hd, hb, h]

theorem read_quote (rest : Text) : read '"' rest = readString rest := by
  have hf : Symbol.first? ('"' :: rest) = none :=
    Symbol.first?_eq_none_iff.mpr ⟨by decide, by simp⟩
  simp [read, hf, show isBlank '"' = false by decide]

theorem read_of_isWordStart {c : Char} (h : isWordStart c = true) (rest : Text) :
    read c rest = (word (c :: rest.takeWhile isWordPart), rest.dropWhile isWordPart) := by
  have hm := Symbol.not_mem_marks (.inr (.inr h))
  have hq : c ≠ '"' := fun hq => hm (by simp [Symbol.marks, hq])
  simp [read, Text.isDigit_eq_false_of_isWordStart h,
    Text.isBlank_eq_false_of_isWordPart (Text.isWordPart_of_isWordStart h),
    Symbol.first?_eq_none_of_not_mem hm, hq, h]

theorem read_of_stray {c : Char} {rest : Text} (h : (stray c).Fits rest) :
    read c rest = (stray c, rest) := by
  obtain ⟨⟨hb, hw, hq, hs⟩, hd, hp⟩ := h
  cases hc : c.isDigit with
  | true => simp [read, readDigits, hc, hd hc]
  | false => simp [read, hc, hb, Symbol.first?_eq_none_iff.mpr ⟨hs, hp⟩, hq, hw]

/-- The content of a string, up to the character that settles it. -/
theorem span_content {content : Text} {c : Char}
    (hc : ∀ d ∈ content, settlesString d = false) (hs : settlesString c = true) (after : Text) :
    (content ++ c :: after).takeWhile (!settlesString ·) = content ∧
      (content ++ c :: after).dropWhile (!settlesString ·) = c :: after := by
  have hin : ∀ d ∈ content, (!settlesString d) = true := by simpa using hc
  have hout : startsWith (!settlesString ·) (c :: after) = false := by simpa using hs
  exact ⟨Text.takeWhile_run hin hout, Text.dropWhile_run hin hout⟩

theorem readString_quoted {content : Text} (h : ∀ c ∈ content, settlesString c = false)
    (rest : Text) : readString (content ++ '"' :: rest) = (quoted content, rest) := by
  obtain ⟨ht, hd⟩ := span_content (c := '"') h rfl rest
  simp only [readString, hd, ht]

theorem readString_cutOff {content : Text} {c : Char}
    (h : ∀ d ∈ content, settlesString d = false) (hc : isLineEnd c = true) (rest : Text) :
    readString (content ++ c :: rest) = (cutOff content c, rest) := by
  obtain ⟨ht, hd⟩ := span_content h (settlesString_of_isLineEnd hc) rest
  have hq : c ≠ '"' := by intro he; rw [he] at hc; cases hc
  unfold readString
  rw [ht, hd]
  split
  · contradiction
  · rename_i heq
    exact absurd (List.cons.inj heq).1 hq
  · rename_i heq
    obtain ⟨rfl, rfl⟩ := List.cons.inj heq
    rfl

theorem readString_openQuote {rest : Text} (h : ∀ c ∈ rest, settlesString c = false) :
    readString rest = (openQuote, rest) := by
  have hd : rest.dropWhile (!settlesString ·) = [] := by simpa [List.dropWhile_eq_nil_iff] using h
  unfold readString
  rw [hd]

theorem read_of_fits {l : Lexeme} {rest tail : Text} {c : Char} (h : l.Fits rest)
    (hl : l.spelling ++ rest = c :: tail) : read c tail = (l, rest) := by
  obtain ⟨hw, he⟩ := h
  cases l with
  | number digits =>
    obtain ⟨hne, hd⟩ := hw
    obtain ⟨d, ds, rfl⟩ := List.exists_cons_of_ne_nil hne
    obtain ⟨rfl, rfl⟩ : d = c ∧ ds ++ rest = tail := List.cons.inj hl
    obtain ⟨hd, hds⟩ := List.forall_mem_cons.mp hd
    have hr := startsWith_isDigit_of_endsNumber he
    have he : endsNumber rest = true := he
    simp [read_of_isDigit hd, readDigits, Text.takeWhile_run hds hr, Text.dropWhile_run hds hr, he]
  | blank run =>
    obtain ⟨hne, hb⟩ := hw
    obtain ⟨d, ds, rfl⟩ := List.exists_cons_of_ne_nil hne
    obtain ⟨rfl, rfl⟩ : d = c ∧ ds ++ rest = tail := List.cons.inj hl
    obtain ⟨hb, hbs⟩ := List.forall_mem_cons.mp hb
    rw [read_of_isBlank hb, Text.takeWhile_run hbs he, Text.dropWhile_run hbs he]
  | symbol s =>
    have hs : s.spelling ++ rest = c :: tail := hl
    obtain ⟨hd, hb⟩ := Symbol.spelling_eq_cons hs
    rw [read_of_first? hd hb (hs ▸ Symbol.first?_spelling he), ← hs, List.drop_left]
  | word text =>
    obtain ⟨hne, hp⟩ := hw
    cases text with
    | nil => simp at hne
    | cons d ds =>
      obtain ⟨rfl, rfl⟩ : d = c ∧ ds ++ rest = tail := List.cons.inj hl
      have hds := (List.forall_mem_cons.mp hp).2
      rw [read_of_isWordStart hne, Text.takeWhile_run hds he, Text.dropWhile_run hds he]
  | quoted content =>
    obtain ⟨rfl, rfl⟩ := List.cons.inj hl
    rw [read_quote]
    simpa using readString_quoted hw rest
  | cutOff content lineEnd =>
    obtain ⟨rfl, rfl⟩ := List.cons.inj hl
    rw [read_quote]
    simpa using readString_cutOff hw.1 hw.2 rest
  | openQuote =>
    obtain ⟨rfl, rfl⟩ := List.cons.inj hl
    rw [read_quote]
    exact readString_openQuote he
  | stray d =>
    obtain ⟨rfl, rfl⟩ := List.cons.inj hl
    exact read_of_stray ⟨hw, he⟩

theorem WellFormed.spelling_ne_nil {l : Lexeme} (h : l.WellFormed) : l.spelling ≠ [] := by
  cases l with
  | number digits => exact h.1
  | blank run => exact h.1
  | symbol s => exact s.spelling_ne_nil
  | word text =>
    intro hnil
    have hnil : text = [] := hnil
    simp [WellFormed, hnil] at h
  | quoted | cutOff | openQuote | stray => simp [spelling]

end Lexeme
end ScriptScan
