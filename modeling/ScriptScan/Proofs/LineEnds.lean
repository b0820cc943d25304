import ScriptScan.Proofs.Transcript

/-! # Line ends do not matter to the shell

A carriage return in front of a line feed goes with it when the source of a line is cut out, and it
makes no line blank or readable that was not (`respond_withReturns`). As it ends no line either
(`splitLines_withReturns`), the shell says the same to both forms of an input. -/

namespace ScriptScan.Shell
open Text (CutIntoLines splitLines decodeUtf8_concat isAllBlank_concat dropEndWhile_concat)

def carriageReturn : UInt8 := 13

/-- The input with a carriage return in front of each line feed. -/
def withReturns (input : List UInt8) : List UInt8 :=
  input.flatMap fun b => if b = lineFeed then [carriageReturn, lineFeed] else [b]

/-! ## Lines -/

theorem withReturns_append (xs ys : List UInt8) :
    withReturns (xs ++ ys) = withReturns xs ++ withReturns ys :=
  List.flatMap_append

theorem withReturns_of_not_mem {xs : List UInt8} (h : lineFeed ∉ xs) : withReturns xs = xs := by
  induction xs with
  | nil => rfl
  | cons b xs ih =>
    rw [List.mem_cons, not_or] at h
    rw [withReturns, List.flatMap_cons, if_neg (Ne.symm h.1), ← withReturns, ih h.2]
    rfl

theorem withReturns_concat_lineFeed {init : List UInt8} (h : lineFeed ∉ init) :
    withReturns (init ++ [lineFeed]) = init ++ [carriageReturn] ++ [lineFeed] := by
  rw [withReturns_append, withReturns_of_not_mem h, List.append_assoc]
  rfl

theorem withReturns_concat_of_ne {init : List UInt8} (h : lineFeed ∉ init) {b : UInt8}
    (hb : b ≠ lineFeed) : withReturns (init ++ [b]) = init ++ [b] :=
  withReturns_of_not_mem (by simp [h, hb.symm])

/-- The lines of an input keep their places. -/
theorem splitLines_withReturns {input : List UInt8} {lines : List (List UInt8)}
    (h : CutIntoLines lineFeed input lines) :
    splitLines lineFeed (withReturns input) = lines.map withReturns := by
  induction lines generalizing input with
  | nil =>
    obtain rfl : [] = input := h.flatten_eq
    rfl
  | cons line lines ih =>
    obtain ⟨hne, hmem, hend, rest, rfl, hrest⟩ := Text.cutIntoLines_cons_iff.mp h
    obtain ⟨init, b, rfl⟩ := (List.eq_nil_or_concat' line).resolve_left hne
    rw [List.dropLast_concat] at hmem
    rw [List.map_cons, ← ih hrest, withReturns_append]
    by_cases hb : b = lineFeed
    · subst hb
      have hinit : lineFeed ∉ init ++ [carriageReturn] := by
        rw [List.mem_append, not_or]
        exact ⟨hmem, by decide⟩
      rw [withReturns_concat_lineFeed hmem, List.append_assoc, List.singleton_append]
      exact Text.splitLines_append_cons hinit (.inr rfl)
    · -- only the last line may lack its line feed
      obtain rfl : lines = [] := hend.resolve_right (by simpa using hb)
      obtain rfl : [] = rest := hrest.flatten_eq
      rw [withReturns_concat_of_ne hmem hb, List.append_assoc, List.singleton_append]
      exact Text.splitLines_append_cons hmem (.inl rfl)

/-! ## Replies -/

theorem respond_withReturns {line : List UInt8} (h : lineFeed ∉ line.dropLast) :
    respond (withReturns line) = respond line := by
  obtain rfl | ⟨init, b, rfl⟩ := List.eq_nil_or_concat' line
  · rfl
  rw [List.dropLast_concat] at h
  by_cases hb : b = lineFeed
  · subst hb
    -- both forms of the line are read as the bytes before them are, and differ in line ends alone
    rw [withReturns_concat_lineFeed h, respond, respond]
    simp only [decodeUtf8_concat (show lineFeed < 128 by decide),
      decodeUtf8_concat (show carriageReturn < 128 by decide)]
    cases Text.decodeUtf8 init with
    | none => rfl
    | some text =>
      have hreturn : Char.ofNat carriageReturn.toNat = '\r' := rfl
      have hfeed : Char.ofNat lineFeed.toNat = '\n' := rfl
      simp only [Option.map_some, hreturn, hfeed, sourceOf]
      rw [isAllBlank_concat (by decide), isAllBlank_concat (by decide),
        isAllBlank_concat (by decide), dropEndWhile_concat rfl, dropEndWhile_concat rfl,
        dropEndWhile_concat rfl]
  · rw [withReturns_concat_of_ne h hb]

theorem transcriptOf_map {f : List UInt8 → List UInt8} {lines : List (List UInt8)}
    (h : ∀ line ∈ lines, respond (f line) = respond line) :
    transcriptOf (lines.map f) = transcriptOf lines := by
  induction lines with
  | nil => rfl
  | cons line lines ih =>
    obtain ⟨hline, hlines⟩ := List.forall_mem_cons.mp h
    rw [List.map_cons, transcriptOf, transcriptOf, hline, ih hlines]

/-- The shell says the same, whether lines end in a line feed or in a carriage return and a line
feed. -/
theorem transcript_withReturns (input : List UInt8) :
    transcript (withReturns input) = transcript input := by
  have hcut := Text.cutIntoLines_splitLines lineFeed input
  rw [transcript, splitLines_withReturns hcut, transcript]
  exact transcriptOf_map fun line hline => respond_withReturns (hcut.not_mem_dropLast line hline)

end ScriptScan.Shell
