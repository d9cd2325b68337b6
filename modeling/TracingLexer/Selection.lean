import TracingLexer.Text.AsciiCase
import TracingLexer.Token

namespace TracingLexer

structure Selector where
  literal : String
  kind : Option String
  deriving DecidableEq, Repr

namespace Selector

/-- Only tokens with a trace can be chosen. -/
def matchesToken (selector : Selector) (token : Token) : Bool :=
  selector.kind.all (Text.equalIgnoringCase token.kind.name) &&
    token.literal == selector.literal && !token.trace.isEmpty

def find? (selector : Selector) (tokens : List Token) : Option Token :=
  tokens.find? selector.matchesToken

def notFoundMessage (selector : Selector) : String :=
  "Error: No token with the literal " ++ selector.literal ++ " was found!"

end Selector
end TracingLexer
