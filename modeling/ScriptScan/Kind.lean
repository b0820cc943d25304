import ScriptScan.Keyword
import ScriptScan.Symbol

/-! # Kinds of tokens -/

namespace ScriptScan

/-- What a token is. No scan makes a `letter`: letters belong to words. -/
inductive Kind
  | number
  | whitespace
  | symbol (s : Symbol)
  | bad
  | endOfText
  | letter
  | keyword (k : Keyword)
  | identifier
  | string
deriving Repr, DecidableEq

def Symbol.kindName : Symbol → Text
  | andAnd => "AmpersandAmpersandToken".toList
  | orOr => "PipePipeToken".toList
  | equalEqual => "EqualsEqualsToken".toList
  | bangEqual => "BangEqualToken".toList
  | plus => "PlusToken".toList
  | minus => "MinusToken".toList
  | star => "MultiplyToken".toList
  | slash => "DivideToken".toList
  | openParen => "OpenParenthesisToken".toList
  | closeParen => "CloseParenthesisToken".toList
  | bang => "BangToken".toList
  | equal => "EqualsToken".toList

def Keyword.kindName : Keyword → Text
  | breakWord => "BreakKeyword".toList
  | continueWord => "ContinueKeyword".toList
  | elseWord => "ElseKeyword".toList
  | falseWord => "FalseKeyword".toList
  | forWord => "ForKeyword".toList
  | ifWord => "IfKeyword".toList
  | letWord => "LetKeyword".toList
  | trueWord => "TrueKeyword".toList
  | varWord => "VarKeyword".toList
  | whileWord => "WhileKeyword".toList

namespace Kind

/-- The name that listings show. -/
def name : Kind → Text
  | number => "NumberToken".toList
  | whitespace => "WhitespaceToken".toList
  | symbol s => s.kindName
  | bad => "BadToken".toList
  | endOfText => "EndOfFileToken".toList
  | letter => "LetterToken".toList
  | keyword k => k.kindName
  | identifier => "IdentifierToken".toList
  | string => "StringToken".toList

def all : List Kind :=
  [number, whitespace, bad, endOfText, letter, identifier, string] ++ Symbol.all.map symbol ++
    Keyword.all.map keyword

def ofName? (t : Text) : Option Kind := all.find? (·.name == t)

/-- No two kinds share a name. -/
theorem ofName?_name (k : Kind) : ofName? k.name = some k := by
  rcases k with _ | _ | s | _ | _ | _ | k | _ | _
  case symbol => cases s <;> decide
  case keyword => cases k <;> decide
  all_goals decide

theorem name_injective {j k : Kind} (h : j.name = k.name) : j = k := by
  have hj := ofName?_name j
  rw [h, ofName?_name] at hj
  exact (Option.some.inj hj).symm

theorem mem_all (k : Kind) : k ∈ all :=
  List.mem_of_find?_eq_some (ofName?_name k)

/-- Neither what a row shows behind a name nor the end of the row is taken for part of the name. -/
theorem not_mem_name (k : Kind) : ':' ∉ k.name ∧ '\n' ∉ k.name := by
  have hall : ∀ k ∈ all, ':' ∉ k.name ∧ '\n' ∉ k.name := by decide +kernel
  exact hall k k.mem_all

def isKeyword : Kind → Bool
  | keyword _ => true
  | _ => false

end Kind

end ScriptScan
