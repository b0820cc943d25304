import ScriptScan.Lexeme
import ScriptScan.Text.CharClass

/-! # Reading a lexeme

`read c rest` takes the lexeme at the start of a text that begins with `c`. Whatever the text, it
takes at least one character, and spelling and remainder together are the text. -/

namespace ScriptScan.Lexeme

/-- A run of digits is a number only where whitespace or the end of the text follows it. -/
def endsNumber : Text → Bool
  | [] => true
  | c :: _ => Text.isBlank c

/-- The first character after an opening quote that is a quote or a line end settles the string. -/
def settlesString (c : Char) : Bool := c == '"' || Text.isLineEnd c

/-- Takes a number, or the digit alone if its run is none. -/
def readDigits (c : Char) (rest : Text) : Lexeme × Text :=
  if endsNumber (rest.dropWhile Char.isDigit) then
    (number (c :: rest.takeWhile Char.isDigit), rest.dropWhile Char.isDigit)
  else (stray c, rest)

/-- Takes a string, given the text after its opening quote. -/
def readString (rest : Text) : Lexeme × Text :=
  match rest.dropWhile (!settlesString ·) with
  | [] => (openQuote, rest)
  | '"' :: after => (quoted (rest.takeWhile (!settlesString ·)), after)
  | lineEnd :: after => (cutOff (rest.takeWhile (!settlesString ·)) lineEnd, after)

/-- Takes the lexeme at the start of the text `c :: rest`. -/
def read (c : Char) (rest : Text) : Lexeme × Text :=
  if c.isDigit then readDigits c rest
  else if Text.isBlank c then
    (blank (c :: rest.takeWhile Text.isBlank), rest.dropWhile Text.isBlank)
  else match Symbol.first? (c :: rest) with
    | some s => (symbol s, (c :: rest).drop s.spelling.length)
    | none =>
      if c = '"' then readString rest
      else if Text.isWordStart c then
        (word (c :: rest.takeWhile Text.isWordPart), rest.dropWhile Text.isWordPart)
      else (stray c, rest)

/-! ## Nothing is lost, and something is taken -/

theorem spelling_readDigits (c : Char) (rest : Text) :
    (readDigits c rest).1.spelling ++ (readDigits c rest).2 = c :: rest := by
  unfold readDigits
  split <;> simp [spelling]

theorem spelling_readString (rest : Text) :
    (readString rest).1.spelling ++ (readString rest).2 = '"' :: rest := by
  have h := List.takeWhile_append_dropWhile (p := (!settlesString ·)) (l := rest)
  unfold readString
  split
  · simp [spelling]
  all_goals
    rename_i hd
    rw [hd] at h
    simp [spelling, h]

theorem spelling_read (c : Char) (rest : Text) :
    (read c rest).1.spelling ++ (read c rest).2 = c :: rest := by
  unfold read
  split
  · exact spelling_readDigits c rest
  split
  · simp [spelling]
  split
  · rename_i h
    exact Symbol.spelling_append_drop h
  split
  · rename_i h
    subst h
    exact spelling_readString rest
  split <;> simp [spelling]

theorem spelling_read_ne_nil (c : Char) (rest : Text) : (read c rest).1.spelling ≠ [] := by
  unfold read readDigits readString
  repeat' split
  all_goals simp [spelling, Symbol.spelling_ne_nil]

theorem length_read_lt (c : Char) (rest : Text) :
    (read c rest).2.length < (c :: rest).length := by
  have h := congrArg List.length (spelling_read c rest)
  have hpos := List.length_pos_iff.mpr (spelling_read_ne_nil c rest)
  rw [List.length_append] at h
  omega

end ScriptScan.Lexeme
