import SymbolDocs.Text.Quoted

namespace SymbolDocs

inductive Json where
  | null
  | bool (value : Bool)
  | number (value : Nat)
  | string (value : String)
  | array (items : List Json)
  | object (fields : List (String × Json))
  deriving Inhabited, Repr

namespace Json

def escapedChar (c : Char) : List Char :=
  if c = '"' then ['\\', '"']
  else if c = '\\' then ['\\', '\\']
  else if c = '\x08' then ['\\', 'b']
  else if c = '\t' then ['\\', 't']
  else if c = '\n' then ['\\', 'n']
  else if c = '\x0c' then ['\\', 'f']
  else if c = '\r' then ['\\', 'r']
  else if c.toNat < 0x20 then
    ['\\', 'u', '0', '0', Nat.digitChar (c.toNat / 16), Nat.digitChar (c.toNat % 16)]
  else [c]

def quoteChars (s : String) : List Char :=
  ['"'] ++ s.toList.flatMap escapedChar ++ ['"']

def scalarChars : Json → List Char
  | null => "null".toList
  | bool true => "true".toList
  | bool false => "false".toList
  | number n => Nat.toDigits 10 n
  | string s => quoteChars s
  | array _ | object _ => []

mutual

def compactChars : Json → List Char
  | array items => ['['] ++ compactItems items ++ [']']
  | object fields => ['\x7b'] ++ compactFields fields ++ ['\x7d']
  | value => scalarChars value

def compactItems : List Json → List Char
  | [] => []
  | [item] => compactChars item
  | item :: next :: items => compactChars item ++ [','] ++ compactItems (next :: items)

def compactFields : List (String × Json) → List Char
  | [] => []
  | [(key, value)] => quoteChars key ++ [':'] ++ compactChars value
  | (key, value) :: next :: fields =>
    quoteChars key ++ [':'] ++ compactChars value ++ [','] ++ compactFields (next :: fields)

end

def newLine (level : Nat) : List Char :=
  '\n' :: List.replicate (2 * level) ' '

mutual

def prettyChars (level : Nat) : Json → List Char
  | array [] => ['[', ']']
  | array items => ['['] ++ prettyItems (level + 1) items ++ newLine level ++ [']']
  | object [] => ['\x7b', '\x7d']
  | object fields => ['\x7b'] ++ prettyFields (level + 1) fields ++ newLine level ++ ['\x7d']
  | value => scalarChars value

def prettyItems (level : Nat) : List Json → List Char
  | [] => []
  | [item] => newLine level ++ prettyChars level item
  | item :: next :: items =>
    newLine level ++ prettyChars level item ++ [','] ++ prettyItems level (next :: items)

def prettyFields (level : Nat) : List (String × Json) → List Char
  | [] => []
  | [(key, value)] => newLine level ++ quoteChars key ++ [':', ' '] ++ prettyChars level value
  | (key, value) :: next :: fields =>
    newLine level ++ quoteChars key ++ [':', ' '] ++ prettyChars level value ++ [','] ++
      prettyFields level (next :: fields)

end

def compact (j : Json) : String :=
  String.ofList j.compactChars

def pretty (j : Json) : String :=
  String.ofList (j.prettyChars 0)

def render (j : Json) (isPretty : Bool) : String :=
  if isPretty then j.pretty else j.compact

end Json

end SymbolDocs
