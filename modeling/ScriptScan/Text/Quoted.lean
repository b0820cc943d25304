import ScriptScan.Text.Basic
import ScriptScan.Text.EscapeTable

/-! # Quoted text

A quoted text stands in double quotes. Characters that would not show, or that would end the text,
are escaped; each character is written the same way whatever stands around it. -/

namespace ScriptScan.Text

/-- The character has no shape of its own to print. -/
def isUnprintable (c : Char) : Bool :=
  c.toNat < 32 || c.toNat == 127 || (127 < c.toNat && escapedRanges.contains c.toNat)

/-- A code point in lower-case hexadecimal, without leading zeros, in braces after `\u`. -/
def codePoint (n : Nat) : Text := "\\u\x7b".toList ++ Nat.toDigits 16 n ++ ['\x7d']

/-- The quoted form of one character. -/
def quotedChar (c : Char) : Text :=
  match c with
  | '\x00' => ['\\', '0']
  | '\t' => ['\\', 't']
  | '\n' => ['\\', 'n']
  | '\r' => ['\\', 'r']
  | '"' => ['\\', '"']
  | '\\' => ['\\', '\\']
  | c => if isUnprintable c then codePoint c.toNat else [c]

def quoted (t : Text) : Text := '"' :: t.flatMap quotedChar ++ ['"']

end ScriptScan.Text
