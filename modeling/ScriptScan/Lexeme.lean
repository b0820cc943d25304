import ScriptScan.Event
import ScriptScan.Token

/-! # Lexemes

A lexeme is what one step of a scan takes from a text, and by which rule. The text taken is its
`spelling`; placed at a byte position, a lexeme gives a token and tells its events.

A quote opens a string that has to close on its line. Where the line ends first, the text up to
the line end goes with it and the token holds only the line end; where the text ends first, the
quote alone is taken. -/

namespace ScriptScan

inductive Lexeme
  /-- A number. -/
  | number (digits : Text)
  /-- A run of whitespace. -/
  | blank (run : Text)
  | symbol (s : Symbol)
  /-- A keyword or an identifier. -/
  | word (text : Text)
  /-- A string that is closed. -/
  | quoted (content : Text)
  /-- A string that is cut off by the end of its line. -/
  | cutOff (content : Text) (lineEnd : Char)
  /-- The quote of a string that runs to the end of the text. -/
  | openQuote
  /-- A character that starts none of these. -/
  | stray (c : Char)
deriving Repr, DecidableEq

namespace Lexeme

/-- The text that the lexeme takes. -/
def spelling : Lexeme → Text
  | number digits => digits
  | blank run => run
  | symbol s => s.spelling
  | word text => text
  | quoted content => '"' :: content ++ ['"']
  | cutOff content lineEnd => '"' :: content ++ [lineEnd]
  | openQuote => ['"']
  | stray c => [c]

def kind : Lexeme → Kind
  | number _ => .number
  | blank _ => .whitespace
  | symbol s => .symbol s
  | word text => match Keyword.ofText? text with
    | some k => .keyword k
    | none => .identifier
  | quoted _ => .string
  | cutOff .. | openQuote | stray _ => .bad

/-- A word is an identifier or a keyword. -/
theorem kind_word (text : Text) :
    (word text).kind = .identifier ∨ ∃ k, (word text).kind = .keyword k := by
  rw [kind]
  cases Keyword.ofText? text with
  | none => exact .inl rfl
  | some k => exact .inr ⟨k, rfl⟩

/-- The text of the token. -/
def text : Lexeme → Text
  | number digits => digits
  | blank run => run
  | symbol s => s.spelling
  | word text => text
  | quoted content => content
  | cutOff _ lineEnd => [lineEnd]
  | openQuote => ['"']
  | stray c => [c]

/-- The bytes of the spelling in front of the token's position. -/
def lead : Lexeme → Nat
  | cutOff content _ => Text.byteLength ('"' :: content)
  | _ => 0

/-- The largest value that a number can have. -/
def largestValue : Nat := 2147483647

/-- The value of a number that is not too large. -/
def value? : Lexeme → Option Nat
  | number digits =>
    let n := Text.ofDecimal digits
    if n ≤ largestValue then some n else none
  | _ => none

/-- The token of a lexeme at a byte position. -/
def tokenAt (l : Lexeme) (position : Nat) : Token :=
  { kind := l.kind
    position := position + l.lead
    text := l.text
    value := l.value?.map Int.ofNat }

/-- What a scan tells about a lexeme at a byte position. A number with a value is passed over in
silence; one without is reported. -/
def eventsAt (l : Lexeme) (position : Nat) : List Event :=
  match l with
  | number digits =>
    match l.value? with
    | some _ => []
    | none => [.undecoded digits, .reported { cause := .numberTooLarge digits, position }]
  | cutOff .. => [.cutOff position, made]
  | openQuote => [.ranOff position, made]
  | _ => [made]
where
  made : Event := .made l.kind (position + l.lead)

end Lexeme

end ScriptScan
