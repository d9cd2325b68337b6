namespace TracingLexer.Text

def equalIgnoringCase (left right : String) : Bool :=
  left.toList.map Char.toLower == right.toList.map Char.toLower

end TracingLexer.Text
