import ScriptScan.Text.Basic

/-! # Bytes of a text

Input arrives as bytes in UTF-8. Bytes that are not valid UTF-8 stand for no text. -/

namespace ScriptScan.Text

def decodeUtf8 (bytes : List UInt8) : Option Text :=
  (String.fromUTF8? ⟨bytes.toArray⟩).map String.toList

end ScriptScan.Text
