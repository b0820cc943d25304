import ScriptScan.Text.CodeRanges

/-! # Whitespace

The Unicode property White_Space, version 17.0.0: tab, line feed, vertical tab, form feed, carriage
return, space, and what lies above U+007F. -/

namespace ScriptScan.Text

/-- Whitespace characters. -/
def blankRanges : CodeRanges 0 where
  ranges :=
    [(0x9, 0xD), (0x20, 0x20), (0x85, 0x85), (0xA0, 0xA0), (0x1680, 0x1680), (0x2000, 0x200A),
     (0x2028, 0x2029), (0x202F, 0x202F), (0x205F, 0x205F), (0x3000, 0x3000)]
  ascending := by decide +kernel

end ScriptScan.Text
