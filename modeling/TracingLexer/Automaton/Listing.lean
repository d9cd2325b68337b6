import TracingLexer.Automaton.Dfa
import TracingLexer.Automaton.Nfa
import TracingLexer.Text.Layout
import TracingLexer.Token

namespace TracingLexer

namespace Listing

def rule : String := Text.rule '─' 50

def finalMark (accepting : Bool) : String := if accepting then " (Final)" else ""

def arrowLine (symbol : Symbol) (target : String) : String :=
  "│── -" ++ symbol.display ++ "→ " ++ target

def enteredBy : Symbol → String
  | .epsilon => "-"
  | symbol => symbol.display

def idAt (nfa : Nfa) (index : Nat) : Nat := (nfa.positions[index]?.map Position.id).getD 0

def positionLines (nfa : Nfa) (position : Position) : List String :=
  (s!"q{position.id} [" ++ enteredBy position.symbol ++ "]" ++ finalMark position.accepting) ::
    position.arrows.toList.map fun arrow => arrowLine arrow.symbol s!"q{idAt nfa arrow.target}"

def blockLines (dfa : Dfa) (index : Nat) : List String :=
  (Dfa.label index ++ finalMark (dfa.isAccepting index)) ::
    (dfa.arrowsOf index).map fun arrow => arrowLine arrow.symbol (Dfa.label arrow.target)

def nfaLines (nfa : Nfa) : List String :=
  ["NFA States and Transitions:", rule] ++ nfa.positions.flatMap (positionLines nfa)

def dfaLines (dfa : Dfa) : List String :=
  ["DFA States and Transitions:", rule] ++ dfa.reachable.flatMap (blockLines dfa)

end Listing

namespace Token

def automataListing (token : Token) : String :=
  if token.trace.isEmpty then ""
  else Text.lines <|
    ["", "=== Token: " ++ token.literal ++ " (" ++ token.kind.name ++ ") ===", ""] ++
      Listing.nfaLines (.ofTrace token.trace) ++ [""] ++ Listing.dfaLines (.ofTrace token.trace)

end Token

namespace Listing

def firstOfEachKey {Item Key : Type} [DecidableEq Key] (key : Item → Key) (seen : List Key) :
    List Item → List Item
  | [] => []
  | item :: rest =>
      if key item ∈ seen then firstOfEachKey key seen rest
      else item :: firstOfEachKey key (key item :: seen) rest

/-- The tokens to draw with their places in the list: of each kind and shape the first. The end
token is never drawn. -/
def drawnPlaces (tokens : List Token) : List (Token × Nat) :=
  firstOfEachKey (fun (token, _) => (token.kind, token.shape)) []
    (tokens.zipIdx.filter fun (token, _) => token.kind ≠ .eof)

def drawn (tokens : List Token) : List Token := (drawnPlaces tokens).map Prod.fst

def automata (tokens : List Token) : String :=
  "\n=== Complete Lexical Analysis Automata ===\n" ++
    String.join ((drawn tokens).map Token.automataListing)

end Listing
end TracingLexer
