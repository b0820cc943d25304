import ScriptScan.Text.Basic

/-! # Keywords

The words that the language reserves. A keyword is spelled exactly so: case matters, and a longer
word that starts with a keyword is none. -/

namespace ScriptScan

inductive Keyword
  | breakWord | continueWord | elseWord | falseWord | forWord
  | ifWord | letWord | trueWord | varWord | whileWord
deriving Repr, DecidableEq

namespace Keyword

def spelling : Keyword → Text
  | breakWord => "break".toList
  | continueWord => "continue".toList
  | elseWord => "else".toList
  | falseWord => "false".toList
  | forWord => "for".toList
  | ifWord => "if".toList
  | letWord => "let".toList
  | trueWord => "true".toList
  | varWord => "var".toList
  | whileWord => "while".toList

/-- All keywords, sorted by their spelling. -/
def all : List Keyword :=
  [breakWord, continueWord, elseWord, falseWord, forWord, ifWord, letWord, trueWord, varWord,
    whileWord]

theorem mem_all (k : Keyword) : k ∈ all := by
  cases k <;> decide

def ofText? (t : Text) : Option Keyword := all.find? (·.spelling == t)

theorem ofText?_spelling (k : Keyword) : ofText? k.spelling = some k := by
  cases k <;> decide

theorem ofText?_eq_some_iff {t : Text} {k : Keyword} : ofText? t = some k ↔ k.spelling = t := by
  constructor
  · intro h
    simpa using List.find?_some h
  · rintro rfl
    exact ofText?_spelling k

end Keyword

end ScriptScan
