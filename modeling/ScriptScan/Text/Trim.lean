import ScriptScan.Text.CharClass

/-! # Trimming -/

namespace ScriptScan.Text

/-- A text with nothing but whitespace, the empty one included. -/
def isAllBlank (t : Text) : Bool := t.all isBlank

/-- Removes the characters at the end that the test accepts. -/
def dropEndWhile (p : Char → Bool) (t : Text) : Text := (t.reverse.dropWhile p).reverse

/-- Removes whitespace at the end. -/
def trimEnd (t : Text) : Text := dropEndWhile isBlank t

/-- What is removed stands at the end, and the test accepts all of it. -/
theorem dropEndWhile_append (p : Char → Bool) (t : Text) :
    ∃ tail : Text, dropEndWhile p t ++ tail = t ∧ ∀ c ∈ tail, p c = true := by
  refine ⟨(t.reverse.takeWhile p).reverse, ?_, ?_⟩
  · rw [dropEndWhile, ← List.reverse_append, List.takeWhile_append_dropWhile, List.reverse_reverse]
  · intro c hc
    exact List.all_eq_true.mp List.all_takeWhile c (List.mem_reverse.mp hc)

theorem dropEndWhile_concat {p : Char → Bool} {c : Char} (hc : p c = true) (t : Text) :
    dropEndWhile p (t ++ [c]) = dropEndWhile p t := by
  rw [dropEndWhile, List.reverse_append, List.reverse_singleton, List.singleton_append,
    List.dropWhile_cons_of_pos hc, dropEndWhile]

theorem isAllBlank_concat {c : Char} (hc : isBlank c = true) (t : Text) :
    isAllBlank (t ++ [c]) = isAllBlank t := by
  simp [isAllBlank, hc]

end ScriptScan.Text
