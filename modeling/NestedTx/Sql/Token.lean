namespace NestedTx.Sql

inductive Token
  | word (text key : String)
  | number (text : String)
  | string (text : String)
  | placeholder (name : String)
  | symbol (text : String)
deriving DecidableEq, Repr

inductive ParseError
  | unterminated (part : String)
  | unexpected (found : Option Token)
  | tooDeep
deriving DecidableEq, Repr

def Token.show : Token → String
  | .word text _ => text
  | .number text => text
  | .string text => "'" ++ text ++ "'"
  | .placeholder name => name
  | .symbol text => text

def ParseError.message : ParseError → String
  | .unterminated part => "unterminated " ++ part
  | .unexpected (some token) => "unexpected " ++ token.show
  | .unexpected none => "unexpected end of text"
  | .tooDeep => "nested too deeply"

end NestedTx.Sql
