import SymbolDocs.Text.Quoted

namespace SymbolDocs.Xml

inductive EscapeFault where
  | unterminated (first last : Nat)
  | longHexadecimal
  | longDecimal
  | badHexadecimal (digit : Char)
  | badDecimal (digit : Char)
  | nullCharacter (first last : Nat)
  | notScalar (code : Nat)
  | unknownEntity (first last : Nat) (name : String)
  deriving DecidableEq, Repr

inductive AttributeFault where
  | noEquals (position : Nat)
  | duplicated (position previous : Nat)
  | noValue (position : Nat)
  | notQuoted (position : Nat)
  | notClosed (position : Nat) (quote : Char)
  deriving DecidableEq, Repr

inductive Piece where
  | bang
  | comment
  | cdata
  | doctype
  | declaration
  deriving DecidableEq, Repr

inductive MarkupFault where
  | escape (fault : EscapeFault)
  | badBang (symbol : Char)
  | unfinished (piece : Piece)
  | emptyDoctype
  | mismatchedEnd (expected found : String)
  deriving DecidableEq, Repr

inductive Fault where
  | markup (position : Nat) (fault : MarkupFault)
  | badAttribute (element : String) (fault : AttributeFault)
  | badValue (element : String) (fault : EscapeFault)
  | strayEnd
  | secondRoot (element : String)
  | unclosed (element : String)
  | noRoot
  deriving DecidableEq, Repr

def EscapeFault.inRange (first last : Nat) (what : String) : String :=
  s!"Error while escaping character at range {first}..{last}: " ++ what

def EscapeFault.message : EscapeFault → String
  | unterminated first last => inRange first last "Cannot find ';' after '&'"
  | longHexadecimal => "Cannot convert hexadecimal to utf8"
  | longDecimal => "Cannot convert decimal to utf8"
  | badHexadecimal digit => s!"'{digit}' is not a valid hexadecimal character"
  | badDecimal digit => s!"'{digit}' is not a valid decimal character"
  | nullCharacter first last => inRange first last "Null character entity not allowed"
  | notScalar code => s!"'{code}' is not a valid codepoint"
  | unknownEntity first last name =>
    inRange first last ("Unrecognized escape symbol: " ++ Text.quoted name)

def AttributeFault.atPosition (position : Nat) (what : String) : String :=
  s!"position {position}: " ++ what

def AttributeFault.message : AttributeFault → String
  | noEquals p => atPosition p "attribute key must be directly followed by `=` or space"
  | duplicated p q =>
    atPosition p s!"duplicated attribute, previous declaration at position {q}"
  | noValue p => atPosition p "`=` must be followed by an attribute value"
  | notQuoted p => atPosition p "attribute value must be enclosed in `\"` or `'`"
  | notClosed p q => atPosition p s!"missing closing quote `{q}` in attribute value"

def Piece.name : Piece → String
  | bang => "Bang"
  | comment => "Comment"
  | cdata => "CData"
  | doctype => "DOCTYPE"
  | declaration => "XmlDecl"

def MarkupFault.message : MarkupFault → String
  | escape fault => fault.message
  | badBang symbol =>
    "Only Comment (`--`), CDATA (`[CDATA[`) and DOCTYPE (`DOCTYPE`) nodes can start with a '!', "
      ++ s!"but symbol `{symbol}` found"
  | unfinished piece => "Unexpected EOF during reading " ++ piece.name
  | emptyDoctype => "DOCTYPE declaration must not be empty"
  | mismatchedEnd expected found => s!"Expecting </{expected}> found </{found}>"

def Fault.message : Fault → String
  | markup position fault => s!"at position {position}: " ++ fault.message
  | badAttribute element fault => s!"bad attribute in <{element}>: " ++ fault.message
  | badValue element fault => s!"bad attribute value in <{element}>: " ++ fault.message
  | strayEnd => "unbalanced end tag"
  | secondRoot element => s!"second root element <{element}>"
  | unclosed element => s!"unclosed element <{element}>"
  | noRoot => "document has no root element"

end SymbolDocs.Xml
