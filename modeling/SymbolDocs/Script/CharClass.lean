import SymbolDocs.Text.Octets

namespace SymbolDocs.Script

open Text (Octets)

def isPrintable (c : Char) : Bool := 0x20 ≤ c.toNat && c.toNat < 0x7F

def isWhite (c : Char) : Bool := c == ' ' || (0x09 ≤ c.toNat && c.toNat ≤ 0x0D)

def isHexDigit (c : Char) : Bool :=
  c.isDigit || ('a' ≤ c && c ≤ 'f') || ('A' ≤ c && c ≤ 'F')

def charClass? : String → Option (Char → Bool)
  | "alpha" => some Char.isAlpha
  | "digit" => some Char.isDigit
  | "alnum" => some Char.isAlphanum
  | "upper" => some Char.isUpper
  | "lower" => some Char.isLower
  | "space" => some isWhite
  | "blank" => some fun c => c == ' ' || c == '\t'
  | "punct" => some fun c => isPrintable c && c != ' ' && !c.isAlphanum
  | "print" => some isPrintable
  | "graph" => some fun c => isPrintable c && c != ' '
  | "cntrl" => some fun c => c.toNat < 0x20 || c.toNat == 0x7F
  | "xdigit" => some isHexDigit
  | _ => none

inductive SetItem where
  | range (low high : Char)
  | named (name : String)
  deriving DecidableEq, Repr

def SetItem.admits (c : Char) : SetItem → Bool
  | range low high => low ≤ c && c ≤ high
  | named name => match charClass? name with
    | some p => p c
    | none => false

inductive CharSet where
  | any
  | exactly (c : Char)
  | among (isNegated : Bool) (items : List SetItem)
  deriving DecidableEq, Repr

namespace CharSet

def admits : CharSet → Char → Bool
  | any, _ => true
  | exactly d, c => c == d
  | among isNegated items, c => items.any (SetItem.admits c) != isNegated

def admitsAnyCase (s : CharSet) (c : Char) : Bool :=
  s.admits c || s.admits c.toLower || s.admits c.toUpper

end CharSet

def className? (cs : List Char) : Option (String × List Char) :=
  let name := cs.takeWhile Char.isLower
  match cs.drop name.length with
  | ':' :: ']' :: r => some (String.ofList name, r)
  | _ => none

end SymbolDocs.Script
