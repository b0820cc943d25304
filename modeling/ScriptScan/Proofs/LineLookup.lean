import ScriptScan.Proofs.Places
import ScriptScan.Proofs.Progress

/-! # Places and positions stand for each other

A place tells a cut of the content around a line and a number of characters of this line; the cut
gives the position back (`Place.Locates`). Each position at which a character starts has just one
such place, and no other position has one. Going on in the content either passes a line feed, and
the line number grows, or stays on the line, and the column does (`Spot.Marks.lex_lt`). -/

namespace ScriptScan.Text

/-- The place is that of the character at a byte position of the content. -/
structure Place.Locates (place : Place) (content : Text) (position : Nat) : Prop where
  /-- The line begins where the content or a line feed ends, and goes on to its own line feed or to
  the end of the content; so many of its characters lead up to the position. -/
  exists_cut : ∃ before after, content = before ++ place.line ++ after ∧
    (before = [] ∨ before.getLast? = some '\n') ∧
    (place.line.getLast? = some '\n' ∨ after = []) ∧
    position = byteLength before + byteLength (place.line.take place.column)
  line_ne_nil : place.line ≠ []
  not_mem_dropLast : '\n' ∉ place.line.dropLast
  column_lt : place.column < place.line.length
  /-- The number counts the line feeds of the content up to the position. -/
  number_eq : ∃ upTo, slice? content 0 position = some upTo ∧
    place.number = upTo.count '\n' + 1

/-! ## Spots and places -/

namespace Spot
variable {s t : Spot} {content : Text} {position p q : Nat}

theorem Marks.isBoundary (h : s.Marks content position) : IsBoundary content position :=
  ⟨_, _, h.source_eq, h.position_eq.symm⟩

theorem exists_marks_of_lt (hlt : position < byteLength content)
    (hb : IsBoundary content position) : ∃ s : Spot, s.Marks content position := by
  obtain ⟨before, after, rfl, rfl⟩ := hb
  cases after with
  | nil =>
    rw [List.append_nil] at hlt
    omega
  | cons c ahead =>
    obtain ⟨s, -, hs⟩ := exists_marks before c ahead
    exact ⟨s, hs⟩

/-- A position is marked by one spot alone. -/
theorem Marks.eq (hs : s.Marks content position) (ht : t.Marks content position) : s = t := by
  obtain ⟨sabove, slead, schar, sahead⟩ := s
  obtain ⟨tabove, tlead, tchar, tahead⟩ := t
  obtain ⟨hbefore, hafter⟩ := append_inj_of_byteLength (hs.source_eq.symm.trans ht.source_eq)
    (hs.position_eq.symm.trans ht.position_eq)
  obtain ⟨rfl, rfl⟩ := List.cons.inj hafter
  have hlead := takeWhile_reverse_append hs.above_eq hs.not_mem_lead
  rw [hbefore, takeWhile_reverse_append ht.above_eq ht.not_mem_lead, List.reverse_inj] at hlead
  obtain rfl : tlead = slead := hlead
  obtain rfl : sabove = tabove := List.append_cancel_right hbefore
  rfl

theorem existsUnique_marks_iff : (∃! s : Spot, s.Marks content position) ↔
    position < byteLength content ∧ IsBoundary content position := by
  constructor
  · rintro ⟨s, hs, -⟩
    exact ⟨hs.lt_byteLength, hs.isBoundary⟩
  · rintro ⟨hlt, hb⟩
    obtain ⟨s, hs⟩ := exists_marks_of_lt hlt hb
    exact ⟨s, hs, fun t ht => ht.eq hs⟩

theorem Marks.locates (h : s.Marks content position) : s.place.Locates content position := by
  obtain ⟨hsource, hposition, habove, hlead⟩ := h
  obtain ⟨line, after, hahead, hline, hne, hmem, hend⟩ :=
    exists_lineHead (List.cons_ne_nil s.char s.ahead)
  have hsline : s.place.line = s.lead ++ line := by rw [place, Spot.line, hline]
  have hcolumn : s.place.column = s.lead.length := rfl
  have hlength : 0 < line.length := List.length_pos_iff.mpr hne
  refine ⟨⟨s.above, after, ?_, habove, ?_, ?_⟩, ?_, ?_, ?_, s.above ++ s.lead, ?_, rfl⟩
  · rw [hsource, hahead, hsline]
    simp only [List.append_assoc]
  · rw [hsline, List.getLast?_append_of_ne_nil _ hne]
    exact hend
  · rw [hsline, hcolumn, List.take_left, hposition, byteLength_append]
  · rw [hsline]
    exact List.append_ne_nil_of_right_ne_nil _ hne
  · rw [hsline, List.dropLast_append_of_ne_nil hne, List.mem_append, not_or]
    exact ⟨hlead, hmem⟩
  · rw [hsline, hcolumn, List.length_append]
    omega
  · exact slice?_eq_some_iff.mpr ⟨[], _, hsource, rfl, by rw [hposition, Nat.zero_add]⟩

theorem exists_marks_of_locates {place : Place} (h : place.Locates content position) :
    ∃ s : Spot, s.Marks content position ∧ s.place = place := by
  obtain ⟨⟨before, after, hcontent, hbefore, hend, hposition⟩, -, hmem, hlt, hcounted⟩ := h
  obtain ⟨upTo, hupTo, hnumber⟩ := hcounted
  obtain ⟨number, line, column⟩ := place
  obtain ⟨lead, c, tail, rfl, rfl⟩ :
      ∃ lead c tail, line = lead ++ c :: tail ∧ lead.length = column :=
    ⟨line.take column, line.get ⟨column, hlt⟩, line.drop (column + 1), by simp,
      List.length_take_of_le (Nat.le_of_lt hlt)⟩
  have hne : c :: tail ≠ [] := List.cons_ne_nil c tail
  rw [List.dropLast_append_of_ne_nil hne, List.mem_append, not_or] at hmem
  rw [List.getLast?_append_of_ne_nil _ hne] at hend
  rw [List.take_left, ← byteLength_append] at hposition
  have hmarks : Marks ⟨before, lead, c, tail ++ after⟩ content position :=
    ⟨by simpa using hcontent, hposition, hbefore, hmem.1⟩
  refine ⟨_, hmarks, ?_⟩
  obtain ⟨found, hfound, hcount⟩ := hmarks.locates.number_eq
  obtain rfl : found = upTo := Option.some.inj (hfound.symm.trans hupTo)
  rw [place, Spot.line, ← List.cons_append, lineHead_append hne hmem.2 hend]
  exact congrArg (fun n => Place.mk n (lead ++ c :: tail) lead.length) (hcount.trans hnumber.symm)

/-- A later character stands on a later line, or on the same line in a later column. -/
theorem Marks.lex_lt (hs : s.Marks content p) (ht : t.Marks content q) (h : p < q) :
    Prod.Lex (· < ·) (· < ·) (s.place.number, s.place.column) (t.place.number, t.place.column) := by
  have hcut : s.above ++ s.lead ++ s.char :: s.ahead = t.above ++ t.lead ++ t.char :: t.ahead := by
    rw [← hs.source_eq, ← ht.source_eq]
  rw [hs.position_eq, ht.position_eq] at h
  -- the characters passed over between the two
  obtain ⟨passed, hpassed⟩ : ∃ passed, t.above ++ t.lead = s.above ++ s.lead ++ passed := by
    rcases List.append_eq_append_iff.mp hcut with ⟨u, hu, -⟩ | ⟨u, hu, -⟩
    · exact ⟨u, hu⟩
    · rw [hu, byteLength_append] at h
      omega
  rw [hpassed, byteLength_append _ passed] at h
  have hcount : t.place.number = s.place.number + passed.count '\n' := by
    simp only [place, hpassed, List.count_append]
    omega
  by_cases hfeed : '\n' ∈ passed
  · have hpos := List.count_pos_iff.mpr hfeed
    exact .left _ _ (by omega)
  · have hlead : t.lead = s.lead ++ passed := by
      have hmem : '\n' ∉ s.lead ++ passed := by
        rw [List.mem_append, not_or]
        exact ⟨hs.not_mem_lead, hfeed⟩
      have hrun := takeWhile_reverse_append ht.above_eq ht.not_mem_lead
      rw [hpassed, List.append_assoc, takeWhile_reverse_append hs.above_eq hmem] at hrun
      exact (List.reverse_inj.mp hrun).symm
    have hlen : passed.length ≠ 0 := by
      intro h0
      rw [List.length_eq_zero_iff.mp h0, byteLength_nil] at h
      omega
    have hcolumn : t.place.column = s.place.column + passed.length := by
      simp only [place, hlead, List.length_append]
    rw [hcount, List.count_eq_zero.mpr hfeed, Nat.add_zero]
    exact .right _ (by omega)

end Spot

/-! ## Looking places up -/

variable {content : Text} {position : Nat} {place : Place}

theorem lt_and_isBoundary_of_placeAt (h : placeAt content position = some place) :
    position < byteLength content ∧ IsBoundary content position := by
  rw [placeAt, Option.ite_none_left_eq_some, Nat.not_le] at h
  obtain ⟨hlt, hfound⟩ := h
  obtain ⟨above, below, lead, ahead, hlines, hline, -, hposition, -⟩ :=
    placeIn_eq_some_iff.mp hfound
  refine ⟨hlt, above.flatten ++ lead, ahead ++ below.flatten, ?_, ?_⟩
  · rw [← flatten_splitLines '\n' content, hlines, List.flatten_append, List.flatten_cons, hline]
    simp only [List.append_assoc]
  · rw [hposition, Nat.zero_add]

theorem placeAt_eq_some_iff_exists_marks :
    placeAt content position = some place ↔
      ∃ s : Spot, s.Marks content position ∧ s.place = place := by
  constructor
  · intro h
    obtain ⟨hlt, hb⟩ := lt_and_isBoundary_of_placeAt h
    obtain ⟨s, hs⟩ := Spot.exists_marks_of_lt hlt hb
    rw [Spot.placeAt_of_marks hs] at h
    exact ⟨s, hs, Option.some.inj h⟩
  · rintro ⟨s, hs, rfl⟩
    exact Spot.placeAt_of_marks hs

theorem placeAt_eq_none_iff : placeAt content position = none ↔
    byteLength content ≤ position ∨ ¬IsBoundary content position := by
  constructor
  · intro h
    by_contra hnot
    rw [not_or, Nat.not_le, not_not] at hnot
    obtain ⟨s, hs⟩ := Spot.exists_marks_of_lt hnot.1 hnot.2
    rw [Spot.placeAt_of_marks hs] at h
    cases h
  · intro h
    rw [Option.eq_none_iff_forall_ne_some]
    intro place hplace
    obtain ⟨hlt, hb⟩ := lt_and_isBoundary_of_placeAt hplace
    exact h.elim (fun hle => absurd hlt (Nat.not_lt.mpr hle)) fun hnot => hnot hb

/-- Looking up positions is exact, and can be undone. -/
structure PlacesExact (content : Text) : Prop where
  none_iff : ∀ position, placeAt content position = none ↔
    byteLength content ≤ position ∨ ¬IsBoundary content position
  /-- What is found is the place of the position, and no other place is. -/
  some_iff : ∀ position place,
    placeAt content position = some place ↔ place.Locates content position
  /-- Two positions never share line and column. -/
  injective : ∀ p q a b, placeAt content p = some a → placeAt content q = some b → p ≠ q →
    (a.number, a.column) ≠ (b.number, b.column)
  /-- Lines and columns come in the order of the positions. -/
  ascending : ∀ p q a b, placeAt content p = some a → placeAt content q = some b → p < q →
    Prod.Lex (· < ·) (· < ·) (a.number, a.column) (b.number, b.column)

theorem lex_lt_of_placeAt {p q : Nat} {a b : Place} (ha : placeAt content p = some a)
    (hb : placeAt content q = some b) (h : p < q) :
    Prod.Lex (· < ·) (· < ·) (a.number, a.column) (b.number, b.column) := by
  obtain ⟨s, hs, rfl⟩ := placeAt_eq_some_iff_exists_marks.mp ha
  obtain ⟨t, ht, rfl⟩ := placeAt_eq_some_iff_exists_marks.mp hb
  exact hs.lex_lt ht h

theorem places_exact (content : Text) : PlacesExact content where
  none_iff _ := placeAt_eq_none_iff
  some_iff position place := by
    rw [placeAt_eq_some_iff_exists_marks]
    constructor
    · rintro ⟨s, hs, rfl⟩
      exact hs.locates
    · exact Spot.exists_marks_of_locates
  injective p q a b ha hb hne heq := by
    rcases Nat.lt_or_gt_of_ne hne with h | h
    · have hlex := lex_lt_of_placeAt ha hb h
      rw [heq, Prod.lex_def] at hlex
      omega
    · have hlex := lex_lt_of_placeAt hb ha h
      rw [heq, Prod.lex_def] at hlex
      omega
  ascending _ _ _ _ := lex_lt_of_placeAt

end ScriptScan.Text
