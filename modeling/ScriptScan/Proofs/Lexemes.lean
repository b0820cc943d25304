import ScriptScan.Proofs.Fits

/-! # The lexemes of a text

Reading lexeme after lexeme cuts a text into a list of lexemes. Of all lists that spell the text
this is the only one in which each lexeme fits before what the others spell (`lexemes_eq_iff`).
Two scans are compared through it: where lexemes of one text still fit before another rest, they
are lexemes of that text too (`lexemes_spellings_append`). -/

namespace ScriptScan
open Text (byteLength)

/-- The lexemes of a text, from its start to its end. -/
def lexemes : Text → List Lexeme
  | [] => []
  | c :: rest => (Lexeme.read c rest).1 :: lexemes (Lexeme.read c rest).2
termination_by t => t.length
decreasing_by exact Lexeme.length_read_lt c rest

namespace Lexeme

/-- What lexemes spell together. -/
def spellings (ls : List Lexeme) : Text := ls.flatMap spelling

@[simp] theorem spellings_nil : spellings [] = [] := rfl

@[simp] theorem spellings_cons (l : Lexeme) (ls : List Lexeme) :
    spellings (l :: ls) = l.spelling ++ spellings ls := by
  simp [spellings]

@[simp] theorem spellings_append (ls ms : List Lexeme) :
    spellings (ls ++ ms) = spellings ls ++ spellings ms := by
  simp [spellings]

/-- Each lexeme fits before what the later ones spell, with `rest` after them. -/
def FitBefore (rest : Text) : List Lexeme → Prop
  | [] => True
  | l :: ls => l.Fits (spellings ls ++ rest) ∧ FitBefore rest ls

theorem fitBefore_append {ls ms : List Lexeme} {rest : Text} :
    FitBefore rest (ls ++ ms) ↔ FitBefore (spellings ms ++ rest) ls ∧ FitBefore rest ms := by
  induction ls with
  | nil => simp [FitBefore]
  | cons l ls ih => simp [FitBefore, ih, and_assoc]

/-- In a fitting list each lexeme is well formed. -/
theorem FitBefore.wellFormed {ls : List Lexeme} {rest : Text} (h : FitBefore rest ls) :
    ∀ l ∈ ls, l.WellFormed := by
  induction ls with
  | nil => simp
  | cons l ls ih =>
    intro m hm
    rcases List.mem_cons.mp hm with rfl | hm
    · exact h.1.wellFormed
    · exact ih h.2 m hm

/-- The lexeme at an index fits before what the later ones spell. -/
theorem FitBefore.getElem {ls : List Lexeme} {rest : Text} (h : FitBefore rest ls) {i : Nat}
    {l : Lexeme} (hl : ls[i]? = some l) : l.Fits (spellings (ls.drop (i + 1)) ++ rest) := by
  induction ls generalizing i with
  | nil => simp at hl
  | cons m ls ih =>
    cases i with
    | zero =>
      obtain rfl : m = l := by simpa using hl
      exact h.1
    | succ i => exact ih h.2 (by simpa using hl)

end Lexeme

open Lexeme

@[simp] theorem lexemes_nil : lexemes [] = [] := by
  rw [lexemes]

theorem lexemes_cons (c : Char) (rest : Text) :
    lexemes (c :: rest) = (read c rest).1 :: lexemes (read c rest).2 := by
  rw [lexemes]

theorem spellings_lexemes (t : Text) : spellings (lexemes t) = t := by
  induction t using lexemes.induct with
  | case1 => simp
  | case2 c rest ih => rw [lexemes_cons, spellings_cons, ih, spelling_read]

theorem fitBefore_lexemes (t : Text) : FitBefore [] (lexemes t) := by
  induction t using lexemes.induct with
  | case1 => simp [FitBefore]
  | case2 c rest ih =>
    rw [lexemes_cons]
    refine ⟨?_, ih⟩
    rw [spellings_lexemes, List.append_nil]
    exact read_fits c rest

/-- Where a lexeme fits, it comes first and the rest is scanned on its own. -/
theorem lexemes_spelling_append {l : Lexeme} {rest : Text} (h : l.Fits rest) :
    lexemes (l.spelling ++ rest) = l :: lexemes rest := by
  obtain ⟨c, tail, ht⟩ : ∃ c tail, l.spelling ++ rest = c :: tail :=
    List.exists_cons_of_ne_nil (by simp [h.wellFormed.spelling_ne_nil])
  rw [ht, lexemes_cons, read_of_fits h ht]

theorem lexemes_spellings_append {ls : List Lexeme} {rest : Text} (h : FitBefore rest ls) :
    lexemes (spellings ls ++ rest) = ls ++ lexemes rest := by
  induction ls with
  | nil => rfl
  | cons l ls ih =>
    obtain ⟨hl, hls⟩ := h
    rw [spellings_cons, List.append_assoc, lexemes_spelling_append hl, ih hls, List.cons_append]

/-- A text is cut in exactly one way into lexemes that fit. -/
theorem lexemes_eq_iff {t : Text} {ls : List Lexeme} :
    lexemes t = ls ↔ spellings ls = t ∧ FitBefore [] ls := by
  constructor
  · rintro rfl
    exact ⟨spellings_lexemes t, fitBefore_lexemes t⟩
  · rintro ⟨rfl, h⟩
    simpa using lexemes_spellings_append h

theorem length_lexemes_le (t : Text) : (lexemes t).length ≤ t.length := by
  induction t using lexemes.induct with
  | case1 => simp
  | case2 c rest ih =>
    have := length_read_lt c rest
    rw [lexemes_cons, List.length_cons]
    omega

/-! ## Lexemes at their positions -/

namespace Lexeme

/-- Lexemes with the byte positions at which they start, the first at `position`. -/
def placed (position : Nat) : List Lexeme → List (Nat × Lexeme)
  | [] => []
  | l :: ls => (position, l) :: placed (position + byteLength l.spelling) ls

@[simp] theorem map_snd_placed (position : Nat) (ls : List Lexeme) :
    (placed position ls).map Prod.snd = ls := by
  induction ls generalizing position with
  | nil => rfl
  | cons l ls ih => simp [placed, ih]

theorem length_placed (position : Nat) (ls : List Lexeme) :
    (placed position ls).length = ls.length := by
  rw [← List.length_map Prod.snd, map_snd_placed]

theorem placed_append (position : Nat) (ls ms : List Lexeme) :
    placed position (ls ++ ms) =
      placed position ls ++ placed (position + byteLength (spellings ls)) ms := by
  induction ls generalizing position with
  | nil => simp [placed]
  | cons l ls ih => simp [placed, ih, Nat.add_assoc]

/-- Starting later moves all positions. -/
theorem placed_add (d position : Nat) (ls : List Lexeme) :
    placed (d + position) ls = (placed position ls).map fun x => (d + x.1, x.2) := by
  induction ls generalizing position with
  | nil => rfl
  | cons l ls ih => simp [placed, ← ih, Nat.add_assoc]

/-- A lexeme stands at the byte length of what the earlier ones spell. -/
theorem getElem?_placed {position i : Nat} {ls : List Lexeme} {l : Lexeme}
    (h : ls[i]? = some l) :
    (placed position ls)[i]? = some (position + byteLength (spellings (ls.take i)), l) := by
  induction ls generalizing position i with
  | nil => simp at h
  | cons m ls ih =>
    cases i with
    | zero =>
      obtain rfl : m = l := by simpa using h
      simp [placed]
    | succ i =>
      have hi : ls[i]? = some l := by simpa using h
      simp [placed, ih hi, Nat.add_assoc]

end Lexeme

end ScriptScan
