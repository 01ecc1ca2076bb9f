import SymbolDocs.Xml.Element
import SymbolDocs.Xml.Unescape

namespace SymbolDocs.Xml

def isSpace (c : Char) : Bool :=
  c == ' ' || c == '\t' || c == '\n' || c == '\r'

def tagName (tag : List Char) : List Char :=
  tag.takeWhile fun c => !isSpace c

inductive AttributeState where
  | between
  | key (start : Nat) (read : List Char)
  | afterKey (start : Nat) (key : String)
  | afterEquals (key : String)
  | value (key : String) (quote : Char) (read : List Char)
  deriving Repr

abbrev SeenKeys := List (String × Nat)

def keyEnded (element : String) (seen : SeenKeys) (start : Nat) (key : String) :
    Except Fault (SeenKeys × AttributeState) :=
  match seen.find? fun k => k.1 == key with
  | some (_, previous) => .error (.badAttribute element (.duplicated start previous))
  | none => .ok ((key, start) :: seen, .afterEquals key)

/-- Reads the attributes from `position` on. Each value is unescaped before the next attribute is
looked at. -/
def readAttributes (element : String) :
    Nat → SeenKeys → AttributeState → List Char → Except Fault (List Attribute)
  | _, _, .between, [] => .ok []
  | p, _, .key _ _, [] => .error (.badAttribute element (.noEquals p))
  | p, _, .afterKey _ _, [] => .error (.badAttribute element (.noEquals p))
  | p, _, .afterEquals _, [] => .error (.badAttribute element (.noValue p))
  | p, _, .value _ quote _, [] => .error (.badAttribute element (.notClosed p quote))
  | p, seen, .between, c :: r =>
    if isSpace c then readAttributes element (p + c.utf8Size) seen .between r
    else readAttributes element (p + c.utf8Size) seen (.key p [c]) r
  | p, seen, .key start read, c :: r =>
    if c = '=' then do
      let (seen, state) ← keyEnded element seen start (String.ofList read.reverse)
      readAttributes element (p + c.utf8Size) seen state r
    else if isSpace c then
      readAttributes element (p + c.utf8Size) seen (.afterKey start (String.ofList read.reverse)) r
    else readAttributes element (p + c.utf8Size) seen (.key start (c :: read)) r
  | p, seen, .afterKey start key, c :: r =>
    if c = '=' then do
      let (seen, state) ← keyEnded element seen start key
      readAttributes element (p + c.utf8Size) seen state r
    else if isSpace c then readAttributes element (p + c.utf8Size) seen (.afterKey start key) r
    else .error (.badAttribute element (.noEquals p))
  | p, seen, .afterEquals key, c :: r =>
    if isSpace c then readAttributes element (p + c.utf8Size) seen (.afterEquals key) r
    else if c = '"' ∨ c = '\'' then readAttributes element (p + c.utf8Size) seen (.value key c []) r
    else .error (.badAttribute element (.notQuoted p))
  | p, seen, .value key quote read, c :: r =>
    if c = quote then do
      let value ← (unescape read.reverse).mapError (.badValue element)
      let rest ← readAttributes element (p + c.utf8Size) seen .between r
      .ok ((key, value) :: rest)
    else readAttributes element (p + c.utf8Size) seen (.value key quote (c :: read)) r

def tagAttributes (tag : List Char) : Except Fault (List Attribute) :=
  let name := tagName tag
  readAttributes (String.ofList name) (byteLength name) [] .between (tag.drop name.length)

end SymbolDocs.Xml
