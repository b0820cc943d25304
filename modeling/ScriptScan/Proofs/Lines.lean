import ScriptScan.Text.Encoding
import ScriptScan.Text.Lines
import Mathlib.Data.List.Basic

/-! # Lines of bytes

What lines and bytes are, without a word about how they are read. Lines put together are the
sequence they come from, and a terminator stands at the end of all but the last and nowhere else
but at the end (`CutIntoLines`); a sequence has one such cut, and reading finds it. The bytes of a
text are those of its characters, and bytes decode to the text whose bytes they are. A byte below
128 at the end of some bytes is a character of its own (`decodeUtf8_concat`). -/

namespace ScriptScan.Text

/-! ## Lines -/

section
variable {α : Type} {terminator : α} {xs : List α} {lines : List (List α)}

/-- The sequence cut into lines that each end with the terminator and include it, the last one
possibly without. -/
structure CutIntoLines (terminator : α) (xs : List α) (lines : List (List α)) : Prop where
  flatten_eq : lines.flatten = xs
  ne_nil : ∀ line ∈ lines, line ≠ []
  not_mem_dropLast : ∀ line ∈ lines, terminator ∉ line.dropLast
  ended : ∀ line ∈ lines.dropLast, line.getLast? = some terminator

theorem CutIntoLines.nil : CutIntoLines terminator [] [] where
  flatten_eq := rfl
  ne_nil := by simp
  not_mem_dropLast := by simp
  ended := by simp

/-- Lines that are each ended by the terminator, and free of it up to there. -/
theorem cutIntoLines_ended {rows : List (List α)} (h : ∀ row ∈ rows, terminator ∉ row) :
    CutIntoLines terminator (rows.flatMap (· ++ [terminator])) (rows.map (· ++ [terminator])) where
  flatten_eq := List.flatMap_def.symm
  ne_nil := by simp
  not_mem_dropLast := by
    simpa only [List.forall_mem_map, List.dropLast_concat] using h
  ended := by
    intro line hline
    obtain ⟨row, -, rfl⟩ := List.mem_map.mp (List.dropLast_subset _ hline)
    exact List.getLast?_concat

/-- What ends with the terminator, or is empty, is made of such lines. -/
theorem exists_ended (h : xs = [] ∨ xs.getLast? = some terminator) :
    ∃ rows : List (List α), (∀ row ∈ rows, terminator ∉ row) ∧
      xs = rows.flatMap (· ++ [terminator]) := by
  induction xs with
  | nil => exact ⟨[], by simp, rfl⟩
  | cons a xs ih =>
    have hxs : xs = [] ∨ xs.getLast? = some terminator := by
      refine or_iff_not_imp_left.mpr fun hne => ?_
      rw [← h.resolve_left (List.cons_ne_nil a xs), List.getLast?_cons_of_ne_nil hne]
    obtain ⟨rows, hrows, rfl⟩ := ih hxs
    by_cases ha : a = terminator
    · exact ⟨[] :: rows, List.forall_mem_cons.mpr ⟨List.not_mem_nil, hrows⟩, by simp [ha]⟩
    · cases rows with
      | nil => simp [ha] at h
      | cons row rows =>
        obtain ⟨hrow, hrows⟩ := List.forall_mem_cons.mp hrows
        refine ⟨(a :: row) :: rows, List.forall_mem_cons.mpr ⟨?_, hrows⟩, rfl⟩
        rw [List.mem_cons, not_or]
        exact ⟨Ne.symm ha, hrow⟩

theorem cutIntoLines_cons_iff {line : List α} :
    CutIntoLines terminator xs (line :: lines) ↔
      line ≠ [] ∧ terminator ∉ line.dropLast ∧
        (lines = [] ∨ line.getLast? = some terminator) ∧
        ∃ rest, xs = line ++ rest ∧ CutIntoLines terminator rest lines := by
  constructor
  · intro h
    obtain ⟨hne, hnes⟩ := List.forall_mem_cons.mp h.ne_nil
    obtain ⟨hmem, hmems⟩ := List.forall_mem_cons.mp h.not_mem_dropLast
    cases lines with
    | nil => exact ⟨hne, hmem, .inl rfl, [], by simp [← h.flatten_eq], .nil⟩
    | cons next others =>
      obtain ⟨hend, hends⟩ := List.forall_mem_cons.mp h.ended
      exact ⟨hne, hmem, .inr hend, (next :: others).flatten, h.flatten_eq.symm,
        ⟨rfl, hnes, hmems, hends⟩⟩
  · rintro ⟨hne, hmem, hend, rest, rfl, h⟩
    refine ⟨by simp [h.flatten_eq], List.forall_mem_cons.mpr ⟨hne, h.ne_nil⟩,
      List.forall_mem_cons.mpr ⟨hmem, h.not_mem_dropLast⟩, ?_⟩
    cases lines with
    | nil => simp
    | cons next others =>
      rw [List.dropLast_cons_cons]
      exact List.forall_mem_cons.mpr ⟨hend.resolve_left (List.cons_ne_nil _ _), h.ended⟩

variable [BEq α] [LawfulBEq α]

theorem splitLines_cons_of_ne {a : α} {line : List α} (ha : a ≠ terminator)
    (h : splitLines terminator xs = line :: lines) :
    splitLines terminator (a :: xs) = (a :: line) :: lines := by
  rw [splitLines, List.foldr_cons, ← splitLines, h]
  simp [consLine, ha]

/-- A line ends at a terminator or where nothing follows. -/
theorem splitLines_cons_of_ends {a : α} (h : xs = [] ∨ a = terminator) :
    splitLines terminator (a :: xs) = [a] :: splitLines terminator xs := by
  rcases h with rfl | rfl
  · rfl
  · rw [splitLines, List.foldr_cons, ← splitLines]
    cases splitLines a xs with
    | nil => rfl
    | cons line lines => simp [consLine]

theorem splitLines_append_cons {init : List α} {a : α} (hinit : terminator ∉ init)
    (h : xs = [] ∨ a = terminator) :
    splitLines terminator (init ++ a :: xs) = (init ++ [a]) :: splitLines terminator xs := by
  induction init with
  | nil => exact splitLines_cons_of_ends h
  | cons b init ih =>
    rw [List.mem_cons, not_or] at hinit
    exact splitLines_cons_of_ne (Ne.symm hinit.1) (ih hinit.2)

/-- Ended lines are cut off as they are, whatever follows. -/
theorem splitLines_ended_append {rows : List (List α)} (h : ∀ row ∈ rows, terminator ∉ row)
    (ys : List α) :
    splitLines terminator (rows.flatMap (· ++ [terminator]) ++ ys) =
      rows.map (· ++ [terminator]) ++ splitLines terminator ys := by
  induction rows with
  | nil => rfl
  | cons row rows ih =>
    obtain ⟨hrow, hrows⟩ := List.forall_mem_cons.mp h
    rw [List.flatMap_cons, List.append_assoc, List.append_assoc, List.singleton_append,
      splitLines_append_cons hrow (.inr rfl), ih hrows, List.map_cons, List.cons_append]

theorem count_ended {rows : List (List α)} (h : ∀ row ∈ rows, terminator ∉ row) :
    (rows.flatMap (· ++ [terminator])).count terminator = rows.length := by
  induction rows with
  | nil => rfl
  | cons row rows ih =>
    obtain ⟨hrow, hrows⟩ := List.forall_mem_cons.mp h
    rw [List.flatMap_cons, List.count_append, List.count_append, List.count_eq_zero.mpr hrow,
      List.count_singleton_self, ih hrows, List.length_cons, Nat.zero_add, Nat.add_comm]

/-- A sequence has at most one cut into lines. -/
theorem CutIntoLines.splitLines_eq (h : CutIntoLines terminator xs lines) :
    splitLines terminator xs = lines := by
  induction lines generalizing xs with
  | nil =>
    obtain rfl : [] = xs := h.flatten_eq
    rfl
  | cons line lines ih =>
    obtain ⟨hne, hmem, hend, rest, rfl, hrest⟩ := cutIntoLines_cons_iff.mp h
    obtain ⟨init, a, rfl⟩ := (List.eq_nil_or_concat' line).resolve_left hne
    rw [List.dropLast_concat] at hmem
    have hends : rest = [] ∨ a = terminator := by
      refine hend.imp ?_ ?_
      · rintro rfl
        exact hrest.flatten_eq.symm
      · intro ha
        simpa using ha
    rw [List.append_assoc, List.singleton_append, splitLines_append_cons hmem hends, ih hrest]

theorem cutIntoLines_splitLines (terminator : α) (xs : List α) :
    CutIntoLines terminator xs (splitLines terminator xs) := by
  induction xs with
  | nil => exact .nil
  | cons a xs ih =>
    by_cases hends : xs = [] ∨ a = terminator
    · rw [splitLines_cons_of_ends hends]
      refine cutIntoLines_cons_iff.mpr ⟨by simp, by simp, ?_, xs, rfl, ih⟩
      refine hends.imp ?_ ?_
      · rintro rfl
        rfl
      · rintro rfl
        rfl
    · rw [not_or] at hends
      cases h : splitLines terminator xs with
      | nil =>
        have hxs := flatten_splitLines terminator xs
        rw [h] at hxs
        exact absurd hxs.symm hends.1
      | cons line lines =>
        rw [splitLines_cons_of_ne hends.2 h]
        rw [h] at ih
        obtain ⟨hne, hmem, hend, rest, rfl, hrest⟩ := cutIntoLines_cons_iff.mp ih
        refine cutIntoLines_cons_iff.mpr ⟨List.cons_ne_nil _ _, ?_, ?_, rest, rfl, hrest⟩
        · rw [List.dropLast_cons_of_ne_nil hne, List.mem_cons, not_or]
          exact ⟨Ne.symm hends.2, hmem⟩
        · rwa [List.getLast?_cons_of_ne_nil hne]

theorem splitLines_eq_iff :
    splitLines terminator xs = lines ↔ CutIntoLines terminator xs lines := by
  constructor
  · rintro rfl
    exact cutIntoLines_splitLines terminator xs
  · exact CutIntoLines.splitLines_eq

end

/-! ## Bytes -/

/-- The UTF-8 of a text. -/
def encodeUtf8 (t : Text) : List UInt8 := t.flatMap String.utf8EncodeChar

theorem fromUTF8?_eq_some_iff {bytes : ByteArray} {s : String} :
    String.fromUTF8? bytes = some s ↔ s.toByteArray = bytes := by
  unfold String.fromUTF8?
  constructor
  · intro h
    split at h
    · rw [← Option.some.inj h]
      rfl
    · cases h
  · rintro rfl
    rw [dif_pos s.isValidUTF8]
    rfl

theorem toByteArray_eq_iff {bytes : List UInt8} {s : String} :
    s.toByteArray = ⟨bytes.toArray⟩ ↔ encodeUtf8 s.toList = bytes := by
  rw [← String.utf8Encode_toList, List.utf8Encode, ByteArray.ext_iff, List.data_toByteArray]
  exact ⟨List.toArray_inj, congrArg List.toArray⟩

/-- Bytes decode to a text just if they are the text's bytes. -/
theorem decodeUtf8_eq_some_iff {bytes : List UInt8} {t : Text} :
    decodeUtf8 bytes = some t ↔ encodeUtf8 t = bytes := by
  rw [decodeUtf8, Option.map_eq_some_iff]
  constructor
  · rintro ⟨s, hs, rfl⟩
    exact toByteArray_eq_iff.mp (fromUTF8?_eq_some_iff.mp hs)
  · intro h
    refine ⟨String.ofList t, fromUTF8?_eq_some_iff.mpr (toByteArray_eq_iff.mpr ?_), ?_⟩
    · rwa [String.toList_ofList]
    · exact String.toList_ofList

/-! ## The last byte of a text -/

theorem encodeUtf8_append (s t : Text) : encodeUtf8 (s ++ t) = encodeUtf8 s ++ encodeUtf8 t :=
  List.flatMap_append

theorem encodeUtf8_singleton (c : Char) : encodeUtf8 [c] = String.utf8EncodeChar c :=
  List.flatMap_singleton ..

theorem lineFeed_mem_encodeUtf8 {t : Text} (h : '\n' ∈ t) : 10 ∈ encodeUtf8 t :=
  List.mem_flatMap.mpr ⟨'\n', h, by decide⟩

/-- The bytes that go on with a character are 128 and above. -/
theorem not_or_128_lt (b : UInt8) : ¬(b ||| 128 < 128) := by
  rw [UInt8.lt_iff_toNat_lt, UInt8.toNat_or, Nat.not_lt]
  exact Nat.right_le_or

/-- A byte below 128 at the end of a character is all of the character. -/
theorem eq_of_utf8EncodeChar_eq_concat {c : Char} {init : List UInt8} {b : UInt8} (hb : b < 128)
    (h : String.utf8EncodeChar c = init ++ [b]) : init = [] ∧ c = Char.ofNat b.toNat := by
  have hlast : (String.utf8EncodeChar c).getLast? = some b := by rw [h, List.getLast?_concat]
  rcases Char.utf8Size_eq c with h1 | h2 | h3 | h4
  · rw [String.utf8EncodeChar_eq_singleton h1] at h
    obtain ⟨rfl, rfl⟩ := List.append_singleton_inj.mp ((List.nil_append _).trans h)
    have hc : c.val.toNat ≤ 127 := UInt32.le_iff_toNat_le.mp (Char.utf8Size_eq_one_iff.mp h1)
    refine ⟨rfl, ?_⟩
    rw [UInt32.toNat_toUInt8, Nat.mod_eq_of_lt (by omega)]
    exact (Char.ofNat_toNat c).symm
  · rw [String.utf8EncodeChar_eq_cons_cons h2] at hlast
    exact absurd (Option.some.inj hlast ▸ hb) (not_or_128_lt _)
  · rw [String.utf8EncodeChar_eq_cons_cons_cons h3] at hlast
    exact absurd (Option.some.inj hlast ▸ hb) (not_or_128_lt _)
  · rw [String.utf8EncodeChar_eq_cons_cons_cons_cons h4] at hlast
    exact absurd (Option.some.inj hlast ▸ hb) (not_or_128_lt _)

theorem utf8EncodeChar_ofNat {b : UInt8} (hb : b < 128) :
    String.utf8EncodeChar (Char.ofNat b.toNat) = [b] := by
  have hlt : b.toNat < 128 := UInt8.lt_iff_toNat_lt.mp hb
  have hval : (Char.ofNat b.toNat).val.toNat = b.toNat := by
    have hvalid : b.toNat.isValidChar := .inl (by omega)
    rw [Char.ofNat, dif_pos hvalid]
    rfl
  have hsize : (Char.ofNat b.toNat).utf8Size = 1 := by
    rw [Char.utf8Size_eq_one_iff, UInt32.le_iff_toNat_le, hval]
    exact Nat.le_of_lt_succ hlt
  rw [String.utf8EncodeChar_eq_singleton hsize]
  refine congrArg (fun x => [x]) (UInt8.toNat_inj.mp ?_)
  rw [UInt32.toNat_toUInt8, hval, Nat.mod_eq_of_lt (by omega)]

/-- A byte below 128 at the end is read as a character, and the bytes before it on their own. -/
theorem decodeUtf8_concat {b : UInt8} (hb : b < 128) (bytes : List UInt8) :
    decodeUtf8 (bytes ++ [b]) = (decodeUtf8 bytes).map (· ++ [Char.ofNat b.toNat]) := by
  ext t
  rw [decodeUtf8_eq_some_iff, Option.map_eq_some_iff]
  constructor
  · intro h
    obtain rfl | ⟨u, c, rfl⟩ := List.eq_nil_or_concat' t
    · simp [encodeUtf8] at h
    -- the last byte belongs to the last character, which it makes up alone
    obtain ⟨init, d, hc⟩ :=
      (List.eq_nil_or_concat' (String.utf8EncodeChar c)).resolve_left (by simp)
    rw [encodeUtf8_append, encodeUtf8_singleton, hc, ← List.append_assoc] at h
    obtain ⟨hbytes, rfl⟩ := List.append_singleton_inj.mp h
    obtain ⟨rfl, rfl⟩ := eq_of_utf8EncodeChar_eq_concat hb hc
    rw [List.append_nil] at hbytes
    exact ⟨u, decodeUtf8_eq_some_iff.mpr hbytes, rfl⟩
  · rintro ⟨u, hu, rfl⟩
    rw [decodeUtf8_eq_some_iff] at hu
    rw [encodeUtf8_append, encodeUtf8_singleton, utf8EncodeChar_ofNat hb, hu]

end ScriptScan.Text
