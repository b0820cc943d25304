import ScriptScan.Proofs.Lines
import ScriptScan.Proofs.Runs
import ScriptScan.Proofs.Slices

/-! # Characters on their lines

A spot is a character of a text with all that surrounds it, cut where its line begins. Every byte
position at which a character starts is marked by a spot. Looking for the position goes through the
lines above the spot, adding up their bytes, to the line of the spot (`placeIn_eq_some_iff`), so the
place that is found is read off the spot: its line number counts the line feeds above, its column
the characters in front (`Spot.placeAt_of_marks`). -/

namespace ScriptScan.Text

/-- What comes after the last line feed, read backwards. -/
theorem takeWhile_reverse_append {above lead : Text}
    (ha : above = [] ∨ above.getLast? = some '\n') (hl : '\n' ∉ lead) :
    (above ++ lead).reverse.takeWhile (· != '\n') = lead.reverse := by
  rw [List.reverse_append]
  refine takeWhile_run ?_ ?_
  · intro c hc
    exact bne_iff_ne.mpr fun hn => hl (hn ▸ List.mem_reverse.mp hc)
  · rcases ha with rfl | ha
    · rfl
    · rw [startsWith, List.head?_reverse, ha]
      rfl

/-! ## The line ahead -/

theorem lineHead_append {line after : Text} (hne : line ≠ []) (hmem : '\n' ∉ line.dropLast)
    (hend : line.getLast? = some '\n' ∨ after = []) : lineHead '\n' (line ++ after) = line := by
  obtain ⟨init, c, rfl⟩ := (List.eq_nil_or_concat' line).resolve_left hne
  rw [List.dropLast_concat] at hmem
  rw [List.getLast?_concat, Option.some.injEq] at hend
  have hinit : ∀ d ∈ init, (d != '\n') = true := fun d hd => bne_iff_ne.mpr fun hn => hmem (hn ▸ hd)
  rw [lineHead, List.append_assoc, List.takeWhile_append_of_pos hinit,
    List.dropWhile_append_of_pos hinit]
  by_cases hc : c = '\n'
  · simp [hc]
  · simp [hc, hend.resolve_left hc]

theorem exists_lineHead {t : Text} (ht : t ≠ []) :
    ∃ line after, t = line ++ after ∧ lineHead '\n' t = line ∧ line ≠ [] ∧
      '\n' ∉ line.dropLast ∧ (line.getLast? = some '\n' ∨ after = []) := by
  have hcut := List.takeWhile_append_dropWhile (p := (· != '\n')) (l := t)
  have hnot : '\n' ∉ t.takeWhile (· != '\n') := fun hm =>
    absurd (List.mem_takeWhile_imp hm) (by decide)
  have hstart := startsWith_dropWhile (p := (· != '\n')) t
  cases hd : t.dropWhile (· != '\n') with
  | nil =>
    rw [hd, List.append_nil] at hcut
    rw [hcut] at hnot
    refine ⟨t, [], (List.append_nil t).symm, ?_, ht, fun hm => hnot (List.dropLast_subset t hm),
      .inr rfl⟩
    rw [lineHead, hd, hcut, List.take_nil, List.append_nil]
  | cons c after =>
    rw [hd, startsWith_cons, bne_eq_false_iff_eq] at hstart
    subst hstart
    refine ⟨t.takeWhile (· != '\n') ++ ['\n'], after, ?_, ?_, by simp, ?_, .inl (by simp)⟩
    · rw [List.append_assoc, List.singleton_append, ← hd, hcut]
    · rw [lineHead, hd, List.take_succ_cons, List.take_zero]
    · rwa [List.dropLast_concat]

theorem exists_splitLines_eq_cons {lead ahead : Text} (hlead : '\n' ∉ lead) (ha : ahead ≠ []) :
    ∃ below, splitLines '\n' (lead ++ ahead) = (lead ++ lineHead '\n' ahead) :: below := by
  obtain ⟨line, after, rfl, hline, hne, hmem, hend⟩ := exists_lineHead ha
  obtain ⟨init, c, rfl⟩ := (List.eq_nil_or_concat' line).resolve_left hne
  rw [List.dropLast_concat] at hmem
  rw [List.getLast?_concat, Option.some.injEq] at hend
  have hinit : '\n' ∉ lead ++ init := by
    rw [List.mem_append, not_or]
    exact ⟨hlead, hmem⟩
  have hcut := splitLines_append_cons hinit hend.symm
  rw [List.append_assoc, List.append_assoc] at hcut
  rw [hline, List.append_assoc init, List.singleton_append, hcut]
  exact ⟨_, rfl⟩

/-! ## Looking through lines -/

section
variable {position number start : Nat} {lines : List Text} {place : Place}

/-- Lines that end at the position or before it are passed over. -/
theorem placeIn_append {above : List Text} (h : start + byteLength above.flatten ≤ position) :
    placeIn position number start (above ++ lines) =
      placeIn position (number + above.length) (start + byteLength above.flatten) lines := by
  induction above generalizing number start with
  | nil => rfl
  | cons line above ih =>
    rw [List.flatten_cons, byteLength_append, ← Nat.add_assoc] at h
    rw [List.cons_append, placeIn, if_neg (by omega), ih h, List.flatten_cons, byteLength_append,
      Nat.add_assoc, List.length_cons, Nat.add_assoc, Nat.add_comm 1]

theorem placeIn_cons {lead ahead : Text} (ha : ahead ≠ []) :
    placeIn (start + byteLength lead) number start ((lead ++ ahead) :: lines) =
      some { number, line := lead ++ ahead, column := lead.length } := by
  have hpos := Nat.pos_of_ne_zero (mt byteLength_eq_zero_iff.mp ha)
  have hsize := byteLength_append lead ahead
  have hwalk : walk [] (byteLength lead) (lead ++ ahead) = some (lead.reverse, ahead) :=
    walk_eq_some_iff.mpr ⟨lead, rfl, (List.append_nil _).symm, rfl⟩
  rw [placeIn, if_pos ⟨by omega, by omega⟩, Nat.add_sub_cancel_left, hwalk, Option.map_some,
    List.length_reverse]

theorem exists_cut_of_placeIn (h : placeIn position number start lines = some place) :
    ∃ above below lead ahead, lines = above ++ place.line :: below ∧
      place.line = lead ++ ahead ∧ ahead ≠ [] ∧
      position = start + byteLength (above.flatten ++ lead) ∧
      place.number = number + above.length ∧ place.column = lead.length := by
  induction lines generalizing number start with
  | nil => cases h
  | cons line lines ih =>
    rw [placeIn] at h
    split at h
    case isTrue hin =>
      obtain ⟨⟨passed, ahead⟩, hwalk, rfl⟩ := Option.map_eq_some_iff.mp h
      obtain ⟨lead, rfl, rfl, hlead⟩ := walk_eq_some_iff.mp hwalk
      refine ⟨[], lines, lead, ahead, rfl, rfl, ?_, ?_, rfl, by simp⟩
      · rintro rfl
        rw [List.append_nil] at hin
        omega
      · rw [List.flatten_nil, List.nil_append]
        omega
    case isFalse =>
      obtain ⟨above, below, lead, ahead, rfl, hline, hne, hposition, hnumber, hcolumn⟩ := ih h
      refine ⟨line :: above, below, lead, ahead, rfl, hline, hne, ?_, ?_, hcolumn⟩
      · rw [hposition, List.flatten_cons, List.append_assoc, byteLength_append line, Nat.add_assoc]
      · rw [hnumber, List.length_cons]
        omega

/-- What is found is a line, its number, and the length of a start of it that ends before the
character at the position. -/
theorem placeIn_eq_some_iff :
    placeIn position number start lines = some place ↔
      ∃ above below lead ahead, lines = above ++ place.line :: below ∧
        place.line = lead ++ ahead ∧ ahead ≠ [] ∧
        position = start + byteLength (above.flatten ++ lead) ∧
        place.number = number + above.length ∧ place.column = lead.length := by
  constructor
  · exact exists_cut_of_placeIn
  · rintro ⟨above, below, lead, ahead, rfl, hline, hne, rfl, hnumber, hcolumn⟩
    rw [byteLength_append, ← Nat.add_assoc, placeIn_append (Nat.le_add_right ..), hline,
      placeIn_cons hne, ← hline, ← hnumber, ← hcolumn]

end

/-- A character of a text: the lines above its own, what stands in front of it on its line, and
what comes after it. -/
structure Spot where
  above : Text
  lead : Text
  char : Char
  ahead : Text
deriving Repr, DecidableEq

namespace Spot

/-- The line of the character, with its line feed if it has one. -/
def line (s : Spot) : Text := s.lead ++ lineHead '\n' (s.char :: s.ahead)

/-- The number of spaces at the start of the line. -/
def indent (s : Spot) : Nat := (s.line.takeWhile (· == ' ')).length

def place (s : Spot) : Place :=
  { number := (s.above ++ s.lead).count '\n' + 1, line := s.line, column := s.lead.length }

/-- The spot is the character that starts at a byte position of the text. -/
structure Marks (s : Spot) (source : Text) (position : Nat) : Prop where
  source_eq : source = s.above ++ s.lead ++ s.char :: s.ahead
  position_eq : position = byteLength (s.above ++ s.lead)
  above_eq : s.above = [] ∨ s.above.getLast? = some '\n'
  not_mem_lead : '\n' ∉ s.lead

variable {s : Spot} {source : Text} {position : Nat}

theorem Marks.lt_byteLength (h : s.Marks source position) : position < byteLength source := by
  have hc := s.char.utf8Size_pos
  rw [h.position_eq, h.source_eq, byteLength_append _ (s.char :: s.ahead), byteLength_cons]
  omega

/-- The line of the character is one of the lines of the text, and those before it make up what is
above. -/
theorem Marks.exists_splitLines_eq (h : s.Marks source position) :
    ∃ above below, splitLines '\n' source = above ++ s.line :: below ∧
      above.flatten = s.above ∧ above.length = s.above.count '\n' := by
  obtain ⟨rows, hrows, habove⟩ := exists_ended h.above_eq
  obtain ⟨below, hbelow⟩ :=
    exists_splitLines_eq_cons h.not_mem_lead (List.cons_ne_nil s.char s.ahead)
  refine ⟨rows.map (· ++ ['\n']), below, ?_, ?_, ?_⟩
  · rw [h.source_eq, List.append_assoc, habove, splitLines_ended_append hrows, hbelow, line]
  · rw [habove, List.flatMap_def]
  · rw [habove, count_ended hrows, List.length_map]

theorem placeAt_of_marks (h : s.Marks source position) :
    placeAt source position = some s.place := by
  obtain ⟨above, below, hlines, habove, hlength⟩ := h.exists_splitLines_eq
  rw [placeAt, if_neg (Nat.not_le.mpr h.lt_byteLength)]
  refine placeIn_eq_some_iff.mpr
    ⟨above, below, s.lead, lineHead '\n' (s.char :: s.ahead), hlines, rfl, ?_, ?_, ?_, rfl⟩
  · obtain ⟨line, _, -, hline, hne, -⟩ := exists_lineHead (List.cons_ne_nil s.char s.ahead)
    rw [hline]
    exact hne
  · rw [habove, Nat.zero_add]
    exact h.position_eq
  · rw [place, List.count_append, List.count_eq_zero.mpr h.not_mem_lead, hlength, Nat.add_zero,
      Nat.add_comm]

/-- Each character of a text has a spot. -/
theorem exists_marks (before : Text) (c : Char) (ahead : Text) :
    ∃ s : Spot, s.char = c ∧ s.Marks (before ++ c :: ahead) (byteLength before) := by
  have hcut : (before.reverse.dropWhile (· != '\n')).reverse ++
      (before.reverse.takeWhile (· != '\n')).reverse = before := by
    rw [← List.reverse_append, List.takeWhile_append_dropWhile, List.reverse_reverse]
  refine ⟨⟨(before.reverse.dropWhile (· != '\n')).reverse,
    (before.reverse.takeWhile (· != '\n')).reverse, c, ahead⟩, rfl, ?_, ?_, ?_, ?_⟩
  · rw [hcut]
  · rw [hcut]
  · cases h : before.reverse.dropWhile (· != '\n') with
    | nil => exact .inl rfl
    | cons d ds =>
      have hd := startsWith_dropWhile (p := (· != '\n')) before.reverse
      rw [h, startsWith_cons, bne_eq_false_iff_eq] at hd
      exact .inr (by rw [List.getLast?_reverse, hd]; rfl)
  · intro hm
    exact absurd (List.mem_takeWhile_imp (List.mem_reverse.mp hm)) (by decide)

end Spot

end ScriptScan.Text
