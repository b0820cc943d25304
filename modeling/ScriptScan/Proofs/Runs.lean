import ScriptScan.Lexeme.Read
import Mathlib.Data.List.TakeWhile

/-! # Runs and the classes of characters

A run is the longest start of a text that one class covers. Where it ends is decided by the first
character of what follows. The classes that start the different lexemes have no character in
common, so the order in which they are tried does not matter. -/

namespace ScriptScan.Text

variable {p : Char → Bool}

/-- The text has a first character, and the test accepts it. -/
def startsWith (p : Char → Bool) (t : Text) : Bool := t.head?.any p

@[simp] theorem startsWith_nil : startsWith p [] = false := rfl

@[simp] theorem startsWith_cons (c : Char) (t : Text) : startsWith p (c :: t) = p c := rfl

theorem startsWith_append {t : Text} (h : t ≠ []) (u : Text) :
    startsWith p (t ++ u) = startsWith p t := by
  cases t with
  | nil => contradiction
  | cons c t => rfl

/-- A run stops where the class does. -/
theorem startsWith_dropWhile (t : Text) : startsWith p (t.dropWhile p) = false := by
  induction t with
  | nil => rfl
  | cons c t ih =>
    rw [List.dropWhile_cons]
    split
    · exact ih
    · simpa using ‹¬p c = true›

theorem forall_mem_cons_takeWhile {c : Char} (hc : p c = true) (t : Text) :
    ∀ d ∈ c :: t.takeWhile p, p d = true := by
  intro d hd
  rcases List.mem_cons.mp hd with rfl | hd
  · exact hc
  · exact List.mem_takeWhile_imp hd

theorem startsWith_eq_false {q : Char → Bool} (hpq : ∀ c, p c = true → q c = false) {t : Text}
    (h : startsWith p t = true) : startsWith q t = false := by
  cases t with
  | nil => rfl
  | cons c t => exact hpq c h

theorem takeWhile_run {run rest : Text} (hr : ∀ c ∈ run, p c = true)
    (hs : startsWith p rest = false) : (run ++ rest).takeWhile p = run := by
  rw [List.takeWhile_append_of_pos hr]
  cases rest with
  | nil => simp
  | cons c rest => simp [show p c = false from hs]

theorem dropWhile_run {run rest : Text} (hr : ∀ c ∈ run, p c = true)
    (hs : startsWith p rest = false) : (run ++ rest).dropWhile p = rest := by
  rw [List.dropWhile_append_of_pos hr]
  cases rest with
  | nil => rfl
  | cons c rest => simp [show p c = false from hs]

/-- A text is cut in only one way at the first of some characters. -/
theorem append_cons_inj_of_not_mem {c : Char} {s t u v : Text} (hs : c ∉ s) (ht : c ∉ t)
    (h : s ++ c :: u = t ++ c :: v) : s = t ∧ u = v := by
  have hrun : ∀ s u : Text, c ∉ s → (s ++ c :: u).takeWhile (· != c) = s := fun s u hs =>
    takeWhile_run (fun d hd => bne_iff_ne.mpr fun hc => hs (hc ▸ hd)) (by simp)
  obtain rfl : s = t := by rw [← hrun s u hs, h, hrun t v ht]
  exact ⟨rfl, (List.cons.inj (List.append_cancel_left h)).2⟩

/-! ## Classes have nothing in common -/

theorem isWordPart_of_isDigit {c : Char} (h : c.isDigit = true) : isWordPart c = true :=
  isWordPart_iff.mpr (.inr (.inl (isNumeral_iff.mpr (.inl h))))

theorem isBlank_eq_false_of_isWordPart {c : Char} (h : isWordPart c = true) :
    isBlank c = false :=
  Bool.eq_false_iff.mpr fun hb => by simp [isWordPart_eq_false_of_isBlank hb] at h

theorem isBlank_eq_false_of_isDigit {c : Char} (h : c.isDigit = true) : isBlank c = false :=
  isBlank_eq_false_of_isWordPart (isWordPart_of_isDigit h)

theorem isWordStart_eq_false_of_isBlank {c : Char} (h : isBlank c = true) :
    isWordStart c = false :=
  Bool.eq_false_iff.mpr fun hw => by
    simp [isBlank_eq_false_of_isWordPart (isWordPart_of_isWordStart hw)] at h

theorem isDigit_eq_false_of_isBlank {c : Char} (h : isBlank c = true) : c.isDigit = false :=
  Bool.eq_false_iff.mpr fun hd => by simp [isBlank_eq_false_of_isDigit hd] at h

theorem toNat_le_of_isDigit {c : Char} (h : c.isDigit = true) : c.toNat ≤ 57 := by
  simp only [Char.isDigit, Bool.and_eq_true, decide_eq_true_eq, UInt32.le_iff_toNat_le] at h
  exact h.2

theorem lt_toNat_of_isAlpha {c : Char} (h : c.isAlpha = true) : 57 < c.toNat := by
  rcases Bool.or_eq_true_iff.mp h with hu | hl
  · have hupper : 'A'.val ≤ c.val ∧ c.val ≤ 'Z'.val := of_decide_eq_true hu
    exact Nat.lt_of_lt_of_le (by decide) (UInt32.le_iff_toNat_le.mp hupper.1)
  · have hlo : 'a'.val ≤ c.val := of_decide_eq_true (Bool.and_eq_true_iff.mp hl).1
    exact Nat.lt_of_lt_of_le (by decide) (UInt32.le_iff_toNat_le.mp hlo)

/-- A digit continues a word but starts none. -/
theorem isWordStart_eq_false_of_isDigit {c : Char} (h : c.isDigit = true) :
    isWordStart c = false := by
  have hle := toNat_le_of_isDigit h
  refine isWordStart_eq_false_iff.mpr ⟨Bool.eq_false_iff.mpr fun hl => ?_, ?_⟩
  · rcases isLetter_iff.mp hl with ha | ht
    · exact absurd (lt_toNat_of_isAlpha ha) (Nat.not_lt.mpr hle)
    · exact absurd (Nat.le_trans (CodeRanges.le_of_contains ht) hle) (by decide)
  · rintro rfl
    cases h

theorem isDigit_eq_false_of_isWordStart {c : Char} (h : isWordStart c = true) :
    c.isDigit = false :=
  Bool.eq_false_iff.mpr fun hd => by simp [isWordStart_eq_false_of_isDigit hd] at h

end ScriptScan.Text
