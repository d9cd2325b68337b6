import TracingLexer.Text.Alphabetic
import TracingLexer.Text.Numeric

namespace TracingLexer.Text

def isAlphanumeric (c : Char) : Bool := isAlphabetic c || isNumeric c

theorem isAlphanumeric_of_isAlphabetic {c : Char} (alphabetic : isAlphabetic c = true) :
    isAlphanumeric c = true := by
  simp [isAlphanumeric, alphabetic]

end TracingLexer.Text
