import ScriptScan.Proofs.Neighbours
import ScriptScan.Proofs.Tiling

/-! # Words are whole

A word goes on as far as its characters do, so what stands behind it belongs to no word. What stands
in front of it is the end of another lexeme, and of all lexemes only words can end in a letter or an
underscore (`isWordStart_getLast?`). A numeral may stand there: it goes on with a word but starts
none. Letters are taken by words and strings alone (`word_or_string_of_isWordStart`), so each letter
of a text is part of a word, stands between the quotes of a string, or is lost with a string that is
cut off. -/

namespace ScriptScan
open Lexeme
open Text (byteLength isLetter isNumeral isWordStart isWordPart startsWith)

/-- The token stands in the text as a whole word, and is a keyword just if it is spelled as one. -/
structure Token.WholeWord (source : Text) (t : Token) : Prop where
  exists_cut : ∃ before after, source = before ++ t.text ++ after ∧
    byteLength before = t.position ∧
    (∀ c, before.getLast? = some c → isLetter c = false ∧ c ≠ '_') ∧
    (∀ c, after.head? = some c → isLetter c = false ∧ isNumeral c = false ∧ c ≠ '_')
  exists_text : ∃ c tail, t.text = c :: tail ∧ (isLetter c = true ∨ c = '_') ∧
    ∀ d ∈ tail, isLetter d = true ∨ isNumeral d = true ∨ d = '_'
  keyword_iff : ∀ k, t.kind = .keyword k ↔ t.text = k.spelling
  identifier_iff : t.kind = .identifier ↔ ∀ k : Keyword, t.text ≠ k.spelling

/-- The bytes from `start` to `stop` are part of a word, stand between the quotes of a string, or are
content of a string that its line end cuts off. -/
inductive TakenIn (source : Text) (start stop : Nat) : Prop
  | word {t : Token} : t ∈ (scan source).tokens → t.kind.isWord = true → t.position ≤ start →
    stop ≤ t.position + byteLength t.text → TakenIn source start stop
  | string {t : Token} : t ∈ (scan source).tokens → t.kind = .string → t.position + 1 ≤ start →
    stop ≤ t.position + 1 + byteLength t.text → TakenIn source start stop
  | cutOff {i : Nat} :
    Account.cutOff.Holds source (reached source i) (reached source (i + 1)) (answer source i) →
    reached source i + 1 ≤ start → stop ≤ (answer source i).position → TakenIn source start stop

theorem Text.byteLength_add_le_of_eq {t u v : Text} {c : Char} (h : t = u ++ c :: v) :
    byteLength u + c.utf8Size ≤ byteLength t := by
  rw [h, byteLength_append, byteLength_cons]
  omega

namespace Lexeme

/-! ## The kind of a word -/

theorem eq_word_of_isWord {l : Lexeme} (h : l.kind.isWord = true) : ∃ text, l = word text := by
  cases l with
  | word text => exact ⟨text, rfl⟩
  | number | blank | symbol | quoted | cutOff | openQuote | stray => cases h

theorem exists_cons_of_wellFormed {text : Text} (hw : (word text).WellFormed) :
    ∃ c tail, text = c :: tail ∧ isWordStart c = true := by
  cases text with
  | nil => cases hw.1
  | cons c tail => exact ⟨c, tail, rfl, hw.1⟩

theorem isWord_kind_word (text : Text) : (word text).kind.isWord = true := by
  rcases kind_word text with h | ⟨k, h⟩ <;> rw [h] <;> rfl

theorem kind_word_eq_keyword_iff {text : Text} {k : Keyword} :
    (word text).kind = .keyword k ↔ text = k.spelling := by
  rw [eq_comm (a := text), ← Keyword.ofText?_eq_some_iff, kind]
  cases Keyword.ofText? text <;> simp

theorem kind_word_eq_identifier_iff {text : Text} :
    (word text).kind = .identifier ↔ ∀ k : Keyword, text ≠ k.spelling := by
  simp only [ne_eq, ← kind_word_eq_keyword_iff]
  rcases kind_word text with h | ⟨k, h⟩ <;> simp [h]

/-! ## Where letters are -/

/-- Letters are taken by words and strings alone. -/
theorem word_or_string_of_isWordStart {l : Lexeme} (hw : l.WellFormed) {c : Char} (hc : c ∈ l.spelling)
    (hs : isWordStart c = true) :
    (∃ text, l = word text) ∨ (∃ content, l = quoted content) ∨
      ∃ content lineEnd, l = cutOff content lineEnd := by
  cases l with
  | word text => exact .inl ⟨text, rfl⟩
  | quoted content => exact .inr (.inl ⟨content, rfl⟩)
  | cutOff content lineEnd => exact .inr (.inr ⟨content, lineEnd, rfl⟩)
  | number digits =>
    rw [Text.isWordStart_eq_false_of_isDigit (hw.2 c hc)] at hs
    cases hs
  | blank run =>
    rw [Text.isWordStart_eq_false_of_isBlank (hw.2 c hc)] at hs
    cases hs
  | symbol s =>
    have hall : s.spelling.all (!isWordStart ·) = true := by cases s <;> decide
    simpa [hs] using List.all_eq_true.mp hall c hc
  | openQuote =>
    obtain rfl := List.mem_singleton.mp hc
    cases hs
  | stray d =>
    obtain rfl := List.mem_singleton.mp hc
    rw [hw.2.1] at hs
    cases hs

/-- Only a word ends in a letter or an underscore. -/
theorem isWordStart_getLast? {l : Lexeme} (hw : l.WellFormed) (hword : ∀ text, l ≠ word text)
    {c : Char} (hc : l.spelling.getLast? = some c) : isWordStart c = false := by
  rw [← Bool.not_eq_true]
  intro hs
  rcases word_or_string_of_isWordStart hw (List.mem_of_getLast? hc) hs with
    ⟨text, rfl⟩ | ⟨content, rfl⟩ | ⟨content, lineEnd, rfl⟩
  · exact hword text rfl
  · rw [spelling, List.getLast?_concat, Option.some.injEq] at hc
    subst hc
    cases hs
  · rw [spelling, List.getLast?_concat, Option.some.injEq] at hc
    subst hc
    rw [Text.isWordStart_eq_false_of_isBlank (Text.isBlank_of_isLineEnd hw.2)] at hs
    cases hs

/-- A character between the ends of a string is part of the content. -/
theorem exists_content {content x y : Text} {first last c : Char} (hfirst : c ≠ first)
    (hlast : c ≠ last) (h : first :: content ++ [last] = x ++ c :: y) :
    ∃ u v, x = first :: u ∧ content = u ++ c :: v := by
  cases x with
  | nil => exact absurd (List.cons.inj h).1.symm hfirst
  | cons d u =>
    obtain ⟨rfl, h⟩ := List.cons.inj h
    obtain rfl | ⟨v, e, rfl⟩ := List.eq_nil_or_concat' y
    · exact absurd (List.append_singleton_inj.mp h).2.symm hlast
    · have h : content ++ [last] = u ++ c :: v ++ [e] := by simpa using h
      exact ⟨u, v, rfl, (List.append_singleton_inj.mp h).1⟩

/-- Each character of what lexemes spell belongs to one of them. -/
theorem exists_spelling_eq {ls : List Lexeme} {before after : Text} {c : Char}
    (h : spellings ls = before ++ c :: after) :
    ∃ i l x y, ls[i]? = some l ∧ before = spellings (ls.take i) ++ x ∧
      l.spelling = x ++ c :: y := by
  induction ls generalizing before with
  | nil => simp at h
  | cons l ls ih =>
    rw [spellings_cons] at h
    rcases List.append_eq_append_iff.mp h with ⟨u, rfl, hu⟩ | ⟨u, hl, hu⟩
    · obtain ⟨i, m, x, y, hm, rfl, hx⟩ := ih hu
      exact ⟨i + 1, m, x, y, hm, by simp, hx⟩
    · cases u with
      | nil =>
        -- the character is the first behind this lexeme
        have hrest : spellings ls = [] ++ c :: after := hu.symm
        obtain ⟨i, m, x, y, hm, hx, hy⟩ := ih hrest
        refine ⟨i + 1, m, x, y, hm, ?_, hy⟩
        rw [List.append_nil] at hl
        simp [hl, ← hx]
      | cons d u =>
        obtain ⟨rfl, -⟩ := List.cons.inj hu
        exact ⟨0, l, before, u, rfl, by simp, hl⟩

end Lexeme

section
variable {source : Text} {i : Nat} {l : Lexeme}

/-- In front of a word stands the end of a lexeme that is no word. -/
theorem isWordStart_getLast?_take {text : Text} (h : (lexemes source)[i]? = some (word text))
    {c : Char} (hc : (spellings ((lexemes source).take i)).getLast? = some c) :
    isWordStart c = false := by
  cases i with
  | zero => cases hc
  | succ j =>
    obtain ⟨hj, hword⟩ := List.getElem?_eq_some_iff.mp h
    have hm : (lexemes source)[j]? = some (lexemes source)[j] :=
      List.getElem?_eq_getElem (by omega)
    have hfit := (fitBefore_lexemes source).getElem hm
    rw [List.take_add_one, hm, spellings_append, Option.toList_some, spellings_cons, spellings_nil,
      List.append_nil, List.getLast?_append_of_ne_nil _ hfit.wellFormed.spelling_ne_nil] at hc
    refine isWordStart_getLast? hfit.wellFormed ?_ hc
    -- a word in front would have read on into this one
    intro front hfront
    have hends := hfit.endsBefore
    rw [hfront, List.drop_eq_getElem_cons hj, hword] at hends
    obtain ⟨d, tail, rfl, hd⟩ := exists_cons_of_wellFormed (wellFormed_of_getElem? h)
    have hd' : isWordPart d = false := hends
    rw [Text.isWordPart_of_isWordStart hd] at hd'
    cases hd'

theorem wholeWord_tokenAt {text : Text} (h : (lexemes source)[i]? = some (word text)) :
    ((word text).tokenAt (reached source i)).WholeWord source where
  exists_cut := by
    have hfit := (fitBefore_lexemes source).getElem h
    refine ⟨spellings ((lexemes source).take i), spellings ((lexemes source).drop (i + 1)),
      source_eq_of_getElem? h, (reached_eq source i).symm, ?_, ?_⟩
    · intro c hc
      exact Text.isWordStart_eq_false_iff.mp (isWordStart_getLast?_take h hc)
    · intro c hc
      have hends : startsWith isWordPart _ = false := hfit.endsBefore
      rw [List.append_nil, startsWith, hc] at hends
      exact Text.isWordPart_eq_false_iff.mp hends
  exists_text := by
    have hw := wellFormed_of_getElem? h
    obtain ⟨c, tail, rfl, hc⟩ := exists_cons_of_wellFormed hw
    exact ⟨c, tail, rfl, Text.isWordStart_iff.mp hc,
      fun d hd => Text.isWordPart_iff.mp (hw.2 d (List.mem_cons_of_mem c hd))⟩
  keyword_iff _ := kind_word_eq_keyword_iff
  identifier_iff := kind_word_eq_identifier_iff

theorem takenIn_of_isWordStart {before after : Text} {c : Char} (h : source = before ++ c :: after)
    (hc : isWordStart c = true) :
    TakenIn source (byteLength before) (byteLength before + c.utf8Size) := by
  obtain ⟨i, l, x, y, hl, hbefore, hspelling⟩ :=
    exists_spelling_eq ((spellings_lexemes source).trans h)
  have hw := wellFormed_of_getElem? hl
  have htoken := mem_tokens_of_getElem? hl
  have hquote : c ≠ '"' := by
    rintro rfl
    cases hc
  have hone : '"'.utf8Size = 1 := rfl
  rw [hbefore, Text.byteLength_append, ← reached_eq]
  rcases word_or_string_of_isWordStart hw (by simp [hspelling]) hc with
    ⟨text, rfl⟩ | ⟨content, rfl⟩ | ⟨content, lineEnd, rfl⟩
  · have hbytes : byteLength x + c.utf8Size ≤ byteLength text :=
      Text.byteLength_add_le_of_eq hspelling
    refine .word htoken (isWord_kind_word text) (Nat.le_add_right _ _) ?_
    simp only [tokenAt, lead, Lexeme.text]
    omega
  · obtain ⟨u, v, rfl, hcontent⟩ := exists_content hquote hquote hspelling
    have hbytes := Text.byteLength_add_le_of_eq hcontent
    refine .string htoken rfl ?_ ?_
    all_goals
      simp only [tokenAt, lead, Lexeme.text, Text.byteLength_cons, hone]
      omega
  · have hend : c ≠ lineEnd := by
      rintro rfl
      rw [Text.isWordStart_eq_false_of_isBlank (Text.isBlank_of_isLineEnd hw.2)] at hc
      cases hc
    obtain ⟨u, v, rfl, hcontent⟩ := exists_content hquote hend hspelling
    have hbytes := Text.byteLength_add_le_of_eq hcontent
    refine .cutOff ((account_eq_cutOff_iff hl).mpr rfl) ?_ ?_
    all_goals
      simp only [answer_of_getElem? hl, tokenAt, lead, Text.byteLength_cons, hone]
      omega

end

/-- Words are whole, and letters are found in words and strings alone. -/
structure WordsWhole (source : Text) : Prop where
  whole : ∀ t ∈ (scan source).tokens, t.kind.isWord = true → t.WholeWord source
  taken : ∀ before c after, source = before ++ c :: after → isLetter c = true ∨ c = '_' →
    TakenIn source (byteLength before) (byteLength before + c.utf8Size)

theorem words_whole (source : Text) : WordsWhole source where
  whole t ht hk := by
    obtain ⟨i, l, hl, rfl⟩ | rfl := exists_step_of_mem_tokens ht
    · obtain ⟨text, rfl⟩ := eq_word_of_isWord hk
      exact wholeWord_tokenAt hl
    · cases hk
  taken _ _ _ h hc := takenIn_of_isWordStart h (Text.isWordStart_iff.mpr hc)

/-- Digits and other numerals are part of a word only behind its first character. -/
example : (scan "7if ٣if if٣".toList).tokens.map Token.kind =
    [.bad, .keyword .ifWord, .whitespace, .bad, .keyword .ifWord, .whitespace, .identifier,
      .endOfText] := by
  decide +kernel

end ScriptScan
