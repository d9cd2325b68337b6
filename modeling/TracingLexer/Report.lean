import TracingLexer.Automaton.Listing
import TracingLexer.SymbolTable

namespace TracingLexer

structure ReportStyle where
  json : Bool := false
  automata : Bool := true
  symbolTable : Bool := true
  deriving DecidableEq, Repr

namespace Report

def rule : String := Text.rule '─' 40

def base (source : String) (tokens : List Token) : String :=
  Text.lines (["Source Code:", rule, source, "", "Tokens:", rule] ++ tokens.map Token.display)

def jsonText (tokens : List Token) : String := (tokensToJson tokens).pretty ++ "\n"

def render (style : ReportStyle) (source : String) (tokens : List Token) : String :=
  if style.json then jsonText tokens
  else
    base source tokens ++
      (if style.automata then Listing.automata tokens else "") ++
      (if style.symbolTable then (SymbolTable.ofTokens tokens).render else "")

def tokenLine (token : Token) : String := "(" ++ token.literal ++ ", " ++ token.kind.name ++ ")"

def tokenFile (tokens : List Token) : String := Text.lines (tokens.map tokenLine)

end Report
end TracingLexer
