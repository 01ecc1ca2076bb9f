import SymbolDocs.Text.Digits
import SymbolDocs.Xml.Fault

namespace SymbolDocs.Xml

def leadingByte (c : Char) : Char :=
  let n := c.toNat
  if n < 0x80 then c
  else if n < 0x800 then Char.ofNat (0xC0 + n / 0x40)
  else if n < 0x10000 then Char.ofNat (0xE0 + n / 0x1000)
  else Char.ofNat (0xF0 + n / 0x40000)

def byteLength (s : List Char) : Nat :=
  s.foldl (fun count c => count + c.utf8Size) 0

def decimalCode (digits : List Char) : Except EscapeFault Nat :=
  if 7 < byteLength digits then .error .longDecimal
  else digits.foldlM (fun n c => match Text.decimalDigit? c with
    | some d => .ok (10 * n + d)
    | none => .error (.badDecimal (leadingByte c))) 0

def hexadecimalCode (digits : List Char) : Except EscapeFault Nat :=
  if 6 < byteLength digits then .error .longHexadecimal
  else digits.foldlM (fun n c => match Text.hexadecimalDigit? c with
    | some d => .ok (16 * n + d)
    | none => .error (.badHexadecimal (leadingByte c))) 0

/-- The character of a code. Code 0 is refused even though it is a character. -/
def charOfCode (first last code : Nat) : Except EscapeFault Char :=
  if code = 0 then .error (.nullCharacter first last)
  else if h : code.isValidChar then .ok (Char.ofNatAux code h)
  else .error (.notScalar code)

def namedChar? (name : List Char) : Option Char :=
  if name = ['l', 't'] then some '<'
  else if name = ['g', 't'] then some '>'
  else if name = ['a', 'm', 'p'] then some '&'
  else if name = ['a', 'p', 'o', 's'] then some '\''
  else if name = ['q', 'u', 'o', 't'] then some '"'
  else none

def reference (first last : Nat) : List Char → Except EscapeFault Char
  | '#' :: 'x' :: digits => hexadecimalCode digits >>= charOfCode first last
  | '#' :: digits => decimalCode digits >>= charOfCode first last
  | name => match namedChar? name with
    | some c => .ok c
    | none => .error (.unknownEntity (first + 1) last (String.ofList name))

mutual

def unescapeFrom (total position : Nat) : List Char → Except EscapeFault (List Char)
  | [] => .ok []
  | c :: r =>
    if c = '&' then unescapeReference total position (position + 1) [] r
    else (unescapeFrom total (position + c.utf8Size) r).map (c :: ·)

def unescapeReference (total first position : Nat) (name : List Char) :
    List Char → Except EscapeFault (List Char)
  | [] => .error (.unterminated first total)
  | c :: r =>
    if c = '&' then .error (.unterminated first total)
    else if c = ';' then do
      let meant ← reference first position name.reverse
      (unescapeFrom total (position + 1) r).map (meant :: ·)
    else unescapeReference total first (position + c.utf8Size) (c :: name) r

end

def unescape (s : List Char) : Except EscapeFault String :=
  (unescapeFrom (byteLength s) 0 s).map String.ofList

end SymbolDocs.Xml
