/-! # Lines

A line runs up to its terminator and holds it; only the last line of a text may lack one. The
same rule serves lines of characters and lines of bytes. -/

namespace ScriptScan.Text

variable {α : Type} [BEq α]

/-- Puts one more element in front of the lines of what follows it. -/
def consLine (terminator a : α) : List (List α) → List (List α)
  | [] => [[a]]
  | line :: lines => if a == terminator then [a] :: line :: lines else (a :: line) :: lines

/-- Cuts a sequence right after each terminator. -/
def splitLines (terminator : α) (xs : List α) : List (List α) :=
  xs.foldr (consLine terminator) []

/-- The part of a sequence up to its first terminator, with it. -/
def lineHead (terminator : α) (xs : List α) : List α :=
  xs.takeWhile (· != terminator) ++ (xs.dropWhile (· != terminator)).take 1

@[simp] theorem flatten_consLine (terminator a : α) (lines : List (List α)) :
    (consLine terminator a lines).flatten = a :: lines.flatten := by
  unfold consLine
  split
  · rfl
  · split <;> simp

/-- Lines lose nothing. -/
theorem flatten_splitLines (terminator : α) (xs : List α) :
    (splitLines terminator xs).flatten = xs := by
  induction xs with
  | nil => rfl
  | cons a xs ih => simpa [splitLines] using ih

end ScriptScan.Text
