import ScriptScan.Text.Basic

/-! # Symbols

Operators and parentheses. Where a symbol of one character starts one of two, the longer wins; a
lone `&` or `|` is no symbol. -/

namespace ScriptScan

inductive Symbol
  | andAnd | orOr | equalEqual | bangEqual
  | plus | minus | star | slash | openParen | closeParen | bang | equal
deriving Repr, DecidableEq

namespace Symbol

def spelling : Symbol → Text
  | andAnd => ['&', '&']
  | orOr => ['|', '|']
  | equalEqual => ['=', '=']
  | bangEqual => ['!', '=']
  | plus => ['+']
  | minus => ['-']
  | star => ['*']
  | slash => ['/']
  | openParen => ['(']
  | closeParen => [')']
  | bang => ['!']
  | equal => ['=']

/-- All symbols, those of two characters first. -/
def all : List Symbol :=
  [andAnd, orOr, equalEqual, bangEqual, plus, minus, star, slash, openParen, closeParen, bang,
    equal]

theorem mem_all (s : Symbol) : s ∈ all := by
  cases s <;> decide

/-- The longest symbol that starts a text. -/
def first? (t : Text) : Option Symbol := all.find? (·.spelling.isPrefixOf t)

theorem spelling_ne_nil (s : Symbol) : s.spelling ≠ [] := by
  cases s <;> simp [spelling]

/-- What is found does start the text. -/
theorem spelling_append_drop {t : Text} {s : Symbol} (h : first? t = some s) :
    s.spelling ++ t.drop s.spelling.length = t := by
  have hs : s.spelling.isPrefixOf t = true := by simpa using List.find?_some h
  exact List.prefix_iff_eq_append.mp (List.isPrefixOf_iff_prefix.mp hs)

end Symbol

end ScriptScan
