import TracingLexer.Json
import TracingLexer.Token

namespace TracingLexer

def Symbol.toJson : Symbol → Json
  | .epsilon => .text "Epsilon"
  | .char value => .record [("Char", .text (String.ofList [value]))]

def ArrowSet.toJson (arrows : ArrowSet) : Json :=
  .record (arrows.bySymbol.map fun (symbol, targets) =>
    (symbol.display, .list (targets.map .nat)))

def State.toJson (state : State) : Json :=
  .record [("id", .nat state.id), ("accepting", .bool state.accepting),
    ("symbol", state.symbol.toJson), ("transitions", state.arrows.toJson)]

def statesToJson (trace : List State) : Json := .list (trace.map State.toJson)

/-- A token without a scope has no such field. -/
def Token.toJson (token : Token) : Json :=
  .record ([("kind", .text token.kind.title), ("literal", .text token.literal),
    ("trace", statesToJson token.trace)] ++
    (token.scope.map fun scope => ("scope", .text scope.name)).toList)

def tokensToJson (tokens : List Token) : Json := .list (tokens.map Token.toJson)

end TracingLexer
