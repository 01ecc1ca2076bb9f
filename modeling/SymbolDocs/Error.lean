import SymbolDocs.Files.OsError
import SymbolDocs.Xml.Fault

namespace SymbolDocs

inductive Malformation where
  | listingWithoutExtension (filename : String)
  | childrenInRef (refid : String)
  | childrenInName (kindref refid : String)
  | notAParagraph (tag : String)
  | textInSection
  | textInParameterList
  | parameterNames (count : Nat)
  | direction (value : String)
  | notAListItem (tag : String)
  | notAnItemParagraph (tag : String)
  deriving DecidableEq, Repr

def Malformation.message : Malformation → String
  | listingWithoutExtension filename =>
    s!"<programlisting> filename '{filename}' has no extension"
  | childrenInRef refid => s!"unexpected children in <ref> with refid={refid}"
  | childrenInName kindref refid =>
    s!"unexpected children in name of {kindref} reference {refid}"
  | notAParagraph tag => s!"expected <para>, found <{tag}>"
  | textInSection => "unexpected text in <simplesect>"
  | textInParameterList => "unexpected text in <parameterlist>"
  | parameterNames count => s!"expected exactly one parameter name, got {count}"
  | direction value => s!"invalid direction '{value}'"
  | notAListItem tag => s!"only <listitem> allowed in <itemizedlist>, found <{tag}>"
  | notAnItemParagraph tag => s!"only <para> allowed in <listitem>, found <{tag}>"

inductive Error where
  | extractionFailed (status output : String)
  | unknownIdentifier (identifier : String)
  | ambiguousIdentifier (identifier : String)
  | nestedScope (identifier : String)
  | ambiguousReference (kindref refid first second : String)
  | unresolvedReference (kindref refid : String)
  | malformed (what : Malformation)
  | illegalMarkup (tag : String)
  | unsupportedMarkup (tag : String)
  | unsupportedSection (kind : String)
  | unsupportedCompound (kind : String)
  | unsupportedMember (kind : String)
  | missingField (element field : String)
  | missingParameterType (function : String)
  | missingParameterName (define : String)
  | invalidRefid (refid : String)
  | xml (fault : Xml.Fault)
  | xmlFile (path : String) (fault : Xml.Fault)
  | io (cause : OsError)
  | endlessNesting
  deriving DecidableEq, Repr

def Error.message : Error → String
  | extractionFailed status output => s!"doxygen failed ({status}): {output}"
  | unknownIdentifier identifier => s!"Unknown identifier '{identifier}'"
  | ambiguousIdentifier identifier => s!"Ambiguous identifier '{identifier}' in Doxygen XML"
  | nestedScope identifier =>
    s!"Identifier '{identifier}' nests more than one scope; only `Compound::member` is supported"
  | ambiguousReference kindref refid first second =>
    s!"{kindref} {refid} has two names: '{first}' and '{second}'"
  | unresolvedReference kindref refid => s!"Unknown {kindref} reference {refid} in Doxygen XML"
  | malformed what => "Malformed markup: " ++ what.message
  | illegalMarkup tag => s!"Illegal tag '{tag}' in Doxygen XML"
  | unsupportedMarkup tag => s!"Unexpected tag '{tag}' in Doxygen XML"
  | unsupportedSection kind => s!"Unexpected simplesect kind '{kind}' in Doxygen XML"
  | unsupportedCompound kind => s!"Unsupported compound type '{kind}' in Doxygen XML"
  | unsupportedMember kind => s!"Unsupported member kind '{kind}' in Doxygen XML"
  | missingField element field => s!"<{element}> is missing required {field}"
  | missingParameterType function => s!"Parameter of function '{function}' has no type"
  | missingParameterName define => s!"Parameter of macro '{define}' has no name"
  | invalidRefid refid => s!"Invalid refid '{refid}' in Doxygen XML"
  | xml fault => "XML error: " ++ fault.message
  | xmlFile path fault => s!"XML error: {path}: XML error: " ++ fault.message
  | io cause => "IO error: " ++ cause.message
  | endlessNesting => "Inner classes nest without end"

end SymbolDocs
