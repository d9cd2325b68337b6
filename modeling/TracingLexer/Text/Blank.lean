import TracingLexer.Text.Ranges

/-! The Unicode property White_Space. -/

namespace TracingLexer.Text

def blankRanges : Ranges where
  toList :=
    [(0x9, 0xd), (0x20, 0x20), (0x85, 0x85), (0xa0, 0xa0), (0x1680, 0x1680), (0x2000, 0x200a),
     (0x2028, 0x2029), (0x202f, 0x202f), (0x205f, 0x205f), (0x3000, 0x3000)]
  ascending := by decide +kernel

def isBlank (c : Char) : Bool := blankRanges.has c.toNat

end TracingLexer.Text
