import ScriptScan.Text.Basic
import ScriptScan.Text.BlankTable
import ScriptScan.Text.LetterTable
import ScriptScan.Text.NumeralTable

/-! # Character classes

Blank characters separate, letters start words, numerals continue them. A digit is an ASCII digit
(`Char.isDigit`); other numerals never start a number. The tables of letters and numerals are
looked up only for characters outside ASCII, and hold no others (`isLetter_iff`, `isNumeral_iff`). -/

namespace ScriptScan.Text

/-- Whitespace. -/
def isBlank (c : Char) : Bool := blankRanges.contains c.toNat

def isLetter (c : Char) : Bool :=
  c.isAlpha || (127 < c.toNat && letterRanges.contains c.toNat)

def isNumeral (c : Char) : Bool :=
  c.isDigit || (127 < c.toNat && numeralRanges.contains c.toNat)

/-- A word starts with a letter or an underscore. -/
def isWordStart (c : Char) : Bool := isLetter c || c == '_'

/-- Letters, numerals and underscores continue a word. -/
def isWordPart (c : Char) : Bool := isLetter c || isNumeral c || c == '_'

/-- A line feed or a carriage return. -/
def isLineEnd (c : Char) : Bool := c == '\n' || c == '\r'

theorem isLetter_iff {c : Char} :
    isLetter c = true ↔ c.isAlpha = true ∨ letterRanges.contains c.toNat = true := by
  rw [isLetter, CodeRanges.lt_and_contains (by decide : 127 < 128), Bool.or_eq_true]

theorem isNumeral_iff {c : Char} :
    isNumeral c = true ↔ c.isDigit = true ∨ numeralRanges.contains c.toNat = true := by
  rw [isNumeral, CodeRanges.lt_and_contains (by decide : 127 < 128), Bool.or_eq_true]

theorem isWordStart_iff {c : Char} : isWordStart c = true ↔ isLetter c = true ∨ c = '_' := by
  simp [isWordStart]

theorem isWordStart_eq_false_iff {c : Char} :
    isWordStart c = false ↔ isLetter c = false ∧ c ≠ '_' := by
  simp [isWordStart]

theorem isWordPart_iff {c : Char} :
    isWordPart c = true ↔ isLetter c = true ∨ isNumeral c = true ∨ c = '_' := by
  simp [isWordPart, or_assoc]

theorem isWordPart_eq_false_iff {c : Char} :
    isWordPart c = false ↔ isLetter c = false ∧ isNumeral c = false ∧ c ≠ '_' := by
  simp [isWordPart, and_assoc]

theorem isWordPart_of_isWordStart {c : Char} (h : isWordStart c = true) : isWordPart c = true := by
  simp only [isWordStart, isWordPart, Bool.or_eq_true] at h ⊢
  exact h.imp_left .inl

theorem isBlank_of_isLineEnd {c : Char} (h : isLineEnd c = true) : isBlank c = true := by
  simp only [isLineEnd, Bool.or_eq_true, beq_iff_eq] at h
  rcases h with rfl | rfl <;> decide

/-- No character both separates words and belongs to one. -/
theorem isWordPart_eq_false_of_isBlank {c : Char} (h : isBlank c = true) : isWordPart c = false := by
  have hall : ∀ n ∈ blankRanges.codes, isWordPart (Char.ofNat n) = false := by decide +kernel
  have := hall c.toNat (CodeRanges.mem_codes_iff.mpr h)
  rwa [Char.ofNat_toNat] at this

end ScriptScan.Text
