import TracingLexer.Text.Blank

namespace TracingLexer.Text

def trimLeft (text : List Char) : List Char := text.dropWhile isBlank

def trimRight (text : List Char) : List Char := (trimLeft text.reverse).reverse

def trim (text : List Char) : List Char := trimRight (trimLeft text)

end TracingLexer.Text
