import ScriptScan.Proofs.Numbers
import ScriptScan.Proofs.Transcript

/-! # Listings can be read back

A listing has one row for each token, and the row tells the token's kind and text. A text is shown
as it is, yet it is found in the row: only a number has a value behind its text, and the text of a
number holds no apostrophe; any other text goes on to the last apostrophe of the row. No text has a
row end, since the source of a line has none. What tokens stand for gives the source back unless a
string is cut off, for which it takes a carriage return (`listing_read_back`). -/

namespace ScriptScan
open Lexeme
open Text (CutIntoLines encodeUtf8 isBlank)

/-! ## The row of a token -/

namespace Token
variable {t u : Token}

/-- What the row of a token shows behind its text. -/
def shownValue (t : Token) : Text :=
  match t.value with
  | some v => ' ' :: Text.signedDecimal v
  | none => []

theorem display_eq (t : Token) :
    t.display = t.kind.name ++ ':' :: ' ' :: '\'' :: (t.text ++ '\'' :: t.shownValue) := by
  have hgroup : ∀ name shown : Text, name ++ [':', ' ', '\''] ++ t.text ++ ['\''] ++ shown =
      name ++ ':' :: ' ' :: '\'' :: (t.text ++ '\'' :: shown) := by
    intro name shown
    simp only [List.append_assoc, List.cons_append, List.nil_append]
  exact hgroup _ _

theorem not_mem_shownValue (t : Token) : '\n' ∉ t.shownValue := by
  have hdigits := Text.not_mem_decimal (show '\n'.isDigit = false by decide)
  unfold shownValue
  split
  · rename_i v _
    cases v <;> simp [Text.signedDecimal, hdigits]
  · simp

theorem shownValue_eq_nil (h : t.value = none) : t.shownValue = [] := by
  rw [shownValue, h]

/-- What a reader of rows relies on. -/
structure Readable (t : Token) : Prop where
  value_eq : t.kind ≠ .number → t.value = none
  not_mem_text : t.kind = .number → '\'' ∉ t.text

/-- The row of a token tells its kind and its text. -/
theorem Readable.eq_of_display_eq (ht : t.Readable) (hu : u.Readable)
    (h : t.display = u.display) : t.kind = u.kind ∧ t.text = u.text := by
  rw [display_eq, display_eq] at h
  obtain ⟨hname, hrow⟩ :=
    Text.append_cons_inj_of_not_mem t.kind.not_mem_name.1 u.kind.not_mem_name.1 h
  have hkind := Kind.name_injective hname
  have hrow : t.text ++ '\'' :: t.shownValue = u.text ++ '\'' :: u.shownValue := by
    simpa using hrow
  refine ⟨hkind, ?_⟩
  by_cases hk : t.kind = .number
  · have hku := hkind.symm.trans hk
    exact (Text.append_cons_inj_of_not_mem (ht.not_mem_text hk) (hu.not_mem_text hku) hrow).1
  · have hku : u.kind ≠ .number := hkind ▸ hk
    rw [shownValue_eq_nil (ht.value_eq hk), shownValue_eq_nil (hu.value_eq hku)] at hrow
    exact List.append_cancel_right hrow

theorem Readable.written_eq_of_display_eq (ht : t.Readable) (hu : u.Readable)
    (h : t.display = u.display) : t.written = u.written := by
  obtain ⟨hkind, htext⟩ := ht.eq_of_display_eq hu h
  rw [written, written, hkind, htext]

end Token

namespace Lexeme

theorem readable_tokenAt {l : Lexeme} (hw : l.WellFormed) (p : Nat) : (l.tokenAt p).Readable where
  value_eq := value_tokenAt_of_ne
  not_mem_text hk hm := by
    obtain ⟨digits, rfl⟩ := eq_number_of_kind hk
    exact absurd (hw.2 _ hm) (by decide)

theorem text_subset_spelling (l : Lexeme) : l.text ⊆ l.spelling := by
  cases l with
  | quoted content => simp [text, spelling]
  | cutOff content lineEnd => simp [text, spelling]
  | number | blank | symbol | word | openQuote | stray => exact List.Subset.refl _

/-- A row does not tell where the token stands. -/
theorem map_display_tokensFrom (position : Nat) (ls : List Lexeme) :
    (tokensFrom position ls).map Token.display = ls.map fun l => (l.tokenAt 0).display := by
  conv_rhs => rw [← map_snd_placed position ls, List.map_map]
  rw [tokensFrom, List.map_map]
  rfl

end Lexeme

/-! ## The rows of a source -/

section
variable {source : Text}

/-- The tokens in front of the end token. -/
def listed (source : Text) : List Token :=
  (scan source).tokens.takeWhile (·.kind ≠ .endOfText)

theorem listed_eq_tokensFrom (source : Text) : listed source = tokensFrom 0 (lexemes source) := by
  have hkind : ∀ t ∈ tokensFrom 0 (lexemes source), decide (t.kind ≠ .endOfText) = true :=
    fun t ht => decide_eq_true (kind_ne_endOfText_of_mem ht)
  rw [listed, tokens_scan, List.takeWhile_append_of_pos hkind]
  exact List.append_nil _

theorem listing_eq_flatMap (source : Text) :
    Shell.listing source = ((listed source).map Token.display).flatMap (· ++ ['\n']) := by
  rw [Shell.listing, dropLast_tokens_scan, listed_eq_tokensFrom, List.flatMap_map]

theorem exists_lexeme_of_mem_listed {t : Token} (h : t ∈ listed source) :
    ∃ l ∈ lexemes source, ∃ p, t = l.tokenAt p :=
  mem_tokensFrom (listed_eq_tokensFrom source ▸ h)

theorem readable_of_mem_listed {t : Token} (h : t ∈ listed source) : t.Readable := by
  obtain ⟨l, hl, p, rfl⟩ := exists_lexeme_of_mem_listed h
  exact readable_tokenAt ((fitBefore_lexemes source).wellFormed l hl) p

theorem mem_source_of_mem_text {l : Lexeme} (hl : l ∈ lexemes source) {c : Char}
    (hc : c ∈ l.text) : c ∈ source := by
  rw [← spellings_lexemes source]
  exact List.mem_flatMap.mpr ⟨l, hl, text_subset_spelling l hc⟩

theorem not_mem_display (h : '\n' ∉ source) {t : Token} (ht : t ∈ listed source) :
    '\n' ∉ t.display := by
  obtain ⟨l, hl, p, rfl⟩ := exists_lexeme_of_mem_listed ht
  have htext : '\n' ∉ (l.tokenAt p).text := fun hm => h (mem_source_of_mem_text hl hm)
  have hvalue := (l.tokenAt p).not_mem_shownValue
  rw [Token.display_eq]
  simp [Kind.not_mem_name, htext, hvalue]

/-- A listing is cut into the rows of the tokens. -/
theorem cutIntoLines_listing (h : '\n' ∉ source) :
    CutIntoLines '\n' (Shell.listing source)
      ((listed source).map fun t => t.display ++ ['\n']) := by
  have hrows : ∀ row ∈ (listed source).map Token.display, '\n' ∉ row :=
    List.forall_mem_map.mpr fun t ht => not_mem_display h ht
  have hcut := Text.cutIntoLines_ended hrows
  rwa [← listing_eq_flatMap, List.map_map] at hcut

/-- No bad token holds a carriage return, so the source has no string that is cut off by one. -/
def Unbroken (source : Text) : Prop :=
  ∀ t ∈ (scan source).tokens, t.kind = .bad → '\r' ∉ t.text

theorem account_ne_cutOff (h : '\n' ∉ source) (hwhole : Unbroken source) :
    ∀ l ∈ lexemes source, l.account ≠ .cutOff := by
  intro l hl hcut
  cases l with
  | cutOff content lineEnd =>
    have hend : lineEnd = '\n' ∨ lineEnd = '\r' := by
      simpa [Text.isLineEnd] using ((fitBefore_lexemes source).wellFormed _ hl).2
    rcases hend with rfl | rfl
    · exact h (mem_source_of_mem_text hl (List.mem_singleton_self _))
    · obtain ⟨p, hp⟩ := exists_mem_tokensFrom 0 hl
      rw [← dropLast_tokens_scan] at hp
      exact hwhole _ (List.dropLast_subset _ hp) rfl (List.mem_singleton_self _)
  | number | blank | symbol | word | quoted | openQuote | stray => cases hcut

theorem flatMap_written_listed (h : '\n' ∉ source) (hwhole : Unbroken source) :
    (listed source).flatMap Token.written = source := by
  rw [listed_eq_tokensFrom, (flatMap_written_eq_iff 0 _).mpr (account_ne_cutOff h hwhole),
    spellings_lexemes]

end

/-- What the rows of tokens tell of each, they tell of all. -/
theorem map_written_eq_of_map_display_eq {ts us : List Token} (ht : ∀ t ∈ ts, t.Readable)
    (hu : ∀ u ∈ us, u.Readable) (h : ts.map Token.display = us.map Token.display) :
    ts.map Token.written = us.map Token.written := by
  induction ts generalizing us with
  | nil =>
    obtain rfl : us = [] := by simpa using h
    rfl
  | cons t ts ih =>
    cases us with
    | nil => cases h
    | cons u us =>
      obtain ⟨hdisplay, hdisplays⟩ := List.cons.inj h
      obtain ⟨ht, hts⟩ := List.forall_mem_cons.mp ht
      obtain ⟨hu, hus⟩ := List.forall_mem_cons.mp hu
      rw [List.map_cons, List.map_cons, ht.written_eq_of_display_eq hu hdisplay,
        ih hts hus hdisplays]

/-- No two sources of one line without a string that is cut off have the same listing. -/
theorem source_eq_of_listing_eq {s t : Text} (hs : '\n' ∉ s) (ht : '\n' ∉ t)
    (hwhole : Unbroken s) (hwhole' : Unbroken t) (h : Shell.listing s = Shell.listing t) :
    s = t := by
  have hrows : (listed s).map Token.display = (listed t).map Token.display := by
    have hcut := (cutIntoLines_listing hs).splitLines_eq
    rw [h, (cutIntoLines_listing ht).splitLines_eq] at hcut
    have hinj : Function.Injective fun row : Text => row ++ ['\n'] :=
      fun _ _ => List.append_cancel_right
    apply List.map_injective_iff.mpr hinj
    rw [List.map_map, List.map_map]
    exact hcut.symm
  have hwritten := map_written_eq_of_map_display_eq (fun _ => readable_of_mem_listed)
    (fun _ => readable_of_mem_listed) hrows
  calc s = ((listed s).map Token.written).flatten := by
        rw [← List.flatMap_def, flatMap_written_listed hs hwhole]
    _ = ((listed t).map Token.written).flatten := by rw [hwritten]
    _ = t := by rw [← List.flatMap_def, flatMap_written_listed ht hwhole']

/-- A string that a carriage return cuts off is listed as this line end, whatever was in it, and so
sources with such strings cannot be told from their listings. -/
theorem listing_cutOff {content content' : Text} (h : ∀ c ∈ content, settlesString c = false)
    (h' : ∀ c ∈ content', settlesString c = false) (rest : Text) :
    Shell.listing ('"' :: content ++ '\r' :: rest) =
      Shell.listing ('"' :: content' ++ '\r' :: rest) := by
  have hlex : ∀ content : Text, (∀ c ∈ content, settlesString c = false) →
      lexemes ('"' :: content ++ '\r' :: rest) = cutOff content '\r' :: lexemes rest := by
    intro content h
    have hfits : (cutOff content '\r').Fits rest := ⟨⟨h, rfl⟩, trivial⟩
    rw [← lexemes_spelling_append hfits]
    simp [spelling]
  rw [listing_eq_flatMap, listing_eq_flatMap, listed_eq_tokensFrom, listed_eq_tokensFrom,
    map_display_tokensFrom, map_display_tokensFrom, hlex content h, hlex content' h']
  rfl

/-! ## The lines that the shell accepts -/

namespace Shell

/-- A line as read that is a text and not blank, with the source that its line ends leave. -/
structure Accepted (line : List UInt8) (source : Text) : Prop where
  not_mem_dropLast : lineFeed ∉ line.dropLast
  exists_text : ∃ text, encodeUtf8 text = line ∧ (∃ c ∈ text, isBlank c = false) ∧
    source = stripped text

variable {line line' : List UInt8} {source source' : Text}

theorem Accepted.respond_eq (h : Accepted line source) : respond line = run source := by
  obtain ⟨-, text, rfl, hblank, rfl⟩ := h
  rw [respond_encodeUtf8, isAllBlank_eq_false_iff.mpr hblank, sourceOf_eq_stripped]
  rfl

/-- The only line feed of a line is at its end, and so is not in the source. -/
theorem Accepted.not_mem (h : Accepted line source) : '\n' ∉ source := by
  obtain ⟨hline, text, rfl, -, rfl⟩ := h
  obtain rfl | ⟨init, c, rfl⟩ := List.eq_nil_or_concat' text
  · simp [stripped]
  have hinit : '\n' ∉ init := by
    intro hm
    rw [Text.encodeUtf8_append, List.dropLast_append_of_ne_nil (by simp [Text.encodeUtf8])] at hline
    exact hline (List.mem_append_left _ (Text.lineFeed_mem_encodeUtf8 hm))
  by_cases hc : c = '\n'
  · rw [stripped, List.rdropWhile_concat_pos _ _ _ (by simp [hc])]
    exact fun hm => hinit ((List.rdropWhile_prefix _ _).subset hm)
  · intro hm
    have hmem := (List.rdropWhile_prefix _ _).subset hm
    simp [hinit, Ne.symm hc] at hmem

theorem out_run (source : Text) : (run source).out = listing source := by
  unfold run
  split <;> rfl

/-- What the reply to a line tells of its source. -/
structure ReadsBack (line : List UInt8) (source : Text) : Prop where
  respond_eq : respond line = run source
  /-- There is one row for each token in front of the end token, ended by a line feed. -/
  cut : CutIntoLines '\n' (respond line).out ((listed source).map fun t => t.display ++ ['\n'])
  /-- No other source has these rows, if no string is broken by a carriage return. -/
  eq_of_out_eq : ∀ line' source', Accepted line' source' → Unbroken source → Unbroken source' →
    (respond line).out = (respond line').out → source = source'

theorem listing_read_back (h : Accepted line source) : ReadsBack line source where
  respond_eq := h.respond_eq
  cut := by
    rw [h.respond_eq, out_run]
    exact cutIntoLines_listing h.not_mem
  eq_of_out_eq line' source' h' hwhole hwhole' hout := by
    rw [h.respond_eq, h'.respond_eq, out_run, out_run] at hout
    exact source_eq_of_listing_eq h.not_mem h'.not_mem hwhole hwhole' hout

/-- A string that reads like the end of a number's row, behind that number. -/
def rowLike (ending : Text) : Text := "1 \"1' 1\"".toList ++ ending

theorem listing_read_back_rowLike :
    Accepted (encodeUtf8 (rowLike ['\n'])) (stripped (rowLike ['\n'])) ∧
      Accepted (encodeUtf8 (rowLike ['\r', '\n'])) (stripped (rowLike ['\r', '\n'])) ∧
      CutIntoLines '\n' (respond (encodeUtf8 (rowLike ['\n']))).out
        ["NumberToken: '1' 1\n".toList, "WhitespaceToken: ' '\n".toList,
          "StringToken: '1' 1'\n".toList] ∧
      stripped (rowLike ['\n']) = stripped (rowLike ['\r', '\n']) := by
  have hfeed : Accepted (encodeUtf8 (rowLike ['\n'])) (stripped (rowLike ['\n'])) :=
    ⟨by decide +kernel, _, rfl, isAllBlank_eq_false_iff.mp (by decide +kernel), rfl⟩
  have hboth : Accepted (encodeUtf8 (rowLike ['\r', '\n'])) (stripped (rowLike ['\r', '\n'])) :=
    ⟨by decide +kernel, _, rfl, isAllBlank_eq_false_iff.mp (by decide +kernel), rfl⟩
  have hrows : (listed (stripped (rowLike ['\n']))).map (fun t => t.display ++ ['\n']) =
      ["NumberToken: '1' 1\n".toList, "WhitespaceToken: ' '\n".toList,
        "StringToken: '1' 1'\n".toList] := by
    decide +kernel
  have hwhole : Unbroken (stripped (rowLike ['\n'])) := by
    unfold Unbroken
    decide +kernel
  have hwhole' : Unbroken (stripped (rowLike ['\r', '\n'])) := by
    unfold Unbroken
    decide +kernel
  have hread := listing_read_back hfeed
  exact ⟨hfeed, hboth, hrows ▸ hread.cut,
    hread.eq_of_out_eq _ _ hboth hwhole hwhole' (by decide +kernel)⟩

end Shell
end ScriptScan
