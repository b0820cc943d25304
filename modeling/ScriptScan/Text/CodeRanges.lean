/-! # Ranges of code points

A class of characters given as a table of ranges, both ends included. A table carries that its
ranges stand in order and begin where it says, so a character before that need not be looked up. -/

namespace ScriptScan.Text

/-- The ranges hold no code point before `start`, none is empty, and they stand in ascending order
without a code point in two of them. -/
def ascendingFrom (start : Nat) : List (Nat × Nat) → Bool
  | [] => true
  | (lo, hi) :: ranges => start ≤ lo && lo ≤ hi && ascendingFrom (hi + 1) ranges

theorem ascendingFrom_cons_iff {start lo hi : Nat} {ranges : List (Nat × Nat)} :
    ascendingFrom start ((lo, hi) :: ranges) = true ↔
      start ≤ lo ∧ lo ≤ hi ∧ ascendingFrom (hi + 1) ranges = true := by
  simp [ascendingFrom, and_assoc]

/-- A table of code points from `start` on. -/
structure CodeRanges (start : Nat) where
  ranges : List (Nat × Nat)
  ascending : ascendingFrom start ranges = true

namespace CodeRanges
variable {start n : Nat} {table : CodeRanges start}

/-- The code point lies in one of the ranges. -/
def contains (table : CodeRanges start) (n : Nat) : Bool :=
  table.ranges.any fun r => r.1 ≤ n && n ≤ r.2

theorem contains_iff : table.contains n = true ↔ ∃ r ∈ table.ranges, r.1 ≤ n ∧ n ≤ r.2 := by
  simp [contains]

/-- The code points of all ranges. -/
def codes (table : CodeRanges start) : List Nat :=
  table.ranges.flatMap fun r => List.range' r.1 (r.2 + 1 - r.1)

theorem mem_codes_iff : n ∈ table.codes ↔ table.contains n = true := by
  simp only [codes, contains_iff, List.mem_flatMap, List.mem_range'_1]
  refine exists_congr fun r => and_congr_right fun _ => ?_
  omega

theorem le_of_ascendingFrom {ranges : List (Nat × Nat)} (h : ascendingFrom start ranges = true) :
    ∀ r ∈ ranges, start ≤ r.1 := by
  induction ranges generalizing start with
  | nil => simp
  | cons first ranges ih =>
    obtain ⟨hlo, hhi, hothers⟩ := ascendingFrom_cons_iff.mp h
    refine List.forall_mem_cons.mpr ⟨hlo, fun r hr => ?_⟩
    have hr := ih hothers r hr
    omega

theorem le_of_contains (h : table.contains n = true) : start ≤ n := by
  obtain ⟨r, hr, hlo, -⟩ := contains_iff.mp h
  exact Nat.le_trans (le_of_ascendingFrom table.ascending r hr) hlo

/-- Looking up only the code points behind a bound below the table finds all that it holds. -/
theorem lt_and_contains {bound : Nat} (hb : bound < start) (table : CodeRanges start) (n : Nat) :
    (bound < n && table.contains n) = table.contains n := by
  rw [Bool.and_eq_right_iff_imp]
  intro h
  exact decide_eq_true (Nat.lt_of_lt_of_le hb (le_of_contains h))

end CodeRanges

end ScriptScan.Text
