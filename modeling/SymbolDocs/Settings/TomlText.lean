import SymbolDocs.Settings.Value

namespace SymbolDocs.Settings.Toml

abbrev Reader (α : Type) := List Char → Option (α × List Char)

def isGap (c : Char) : Bool :=
  c == ' ' || c == '\t'

def skipGap (s : List Char) : List Char :=
  s.dropWhile isGap

def dropNewLine? : List Char → Option (List Char)
  | '\n' :: r => some r
  | '\r' :: '\n' :: r => some r
  | _ => none

def isPlain (c : Char) : Bool :=
  c == '\t' || (0x20 ≤ c.toNat && c.toNat != 0x7F)

def skipComment : List Char → List Char
  | '#' :: r => r.dropWhile isPlain
  | r => r

def dropLineEnd? (s : List Char) : Option (List Char) :=
  match skipComment (skipGap s) with
  | [] => some []
  | r => dropNewLine? r

def skipLines : (fuel : Nat) → List Char → List Char
  | 0, s => s
  | fuel + 1, s =>
    let r := skipComment (skipGap s)
    match dropNewLine? r with
    | some rest => skipLines fuel rest
    | none => r

def codePoint? (ds : List Char) : Option Char := do
  let code ← Text.hexadecimal? ds
  if h : code.isValidChar then some (Char.ofNatAux code h) else none

def escaped? : Char → Option Char
  | 'b' => some '\x08'
  | 't' => some '\t'
  | 'n' => some '\n'
  | 'f' => some '\x0c'
  | 'r' => some '\r'
  | '"' => some '"'
  | '\\' => some '\\'
  | _ => none

def prepend (c : Char) : Option (List Char × List Char) → Option (List Char × List Char) :=
  Option.map fun (s, r) => (c :: s, r)

def basicString : Reader (List Char)
  | '"' :: r => some ([], r)
  | '\\' :: 'u' :: a :: b :: c :: d :: r => do
    prepend (← codePoint? [a, b, c, d]) (basicString r)
  | '\\' :: 'U' :: a :: b :: c :: d :: e :: f :: g :: h :: r => do
    prepend (← codePoint? [a, b, c, d, e, f, g, h]) (basicString r)
  | '\\' :: c :: r => do prepend (← escaped? c) (basicString r)
  | c :: r => if isPlain c then prepend c (basicString r) else none
  | [] => none

def literalString : Reader (List Char)
  | '\'' :: r => some ([], r)
  | c :: r => if isPlain c then prepend c (literalString r) else none
  | [] => none

/-- Where a string of several lines stands: in its text, or behind a backslash that ends a line,
with or without a new line since then. -/
inductive Joint where
  | inText
  | afterBackslash
  | acrossLines
  deriving DecidableEq

/-- A string in three double quotes, from behind them. Up to two more quotes may stand before the
closing ones. -/
def multilineBasic (joint : Joint) : Reader (List Char)
  | '\n' :: r =>
    if joint = .inText then prepend '\n' (multilineBasic .inText r)
    else multilineBasic .acrossLines r
  | '\r' :: '\n' :: r =>
    if joint = .inText then prepend '\n' (multilineBasic .inText r)
    else multilineBasic .acrossLines r
  | c :: r =>
    if joint ≠ .inText ∧ isGap c then multilineBasic joint r
    else if joint = .afterBackslash then none
    else match c, r with
      | '"', '"' :: '"' :: '"' :: '"' :: rest => some (['"', '"'], rest)
      | '"', '"' :: '"' :: '"' :: rest => some (['"'], rest)
      | '"', '"' :: '"' :: rest => some ([], rest)
      | '\\', 'u' :: a :: b :: c :: d :: rest => do
        prepend (← codePoint? [a, b, c, d]) (multilineBasic .inText rest)
      | '\\', 'U' :: a :: b :: c :: d :: e :: f :: g :: h :: rest => do
        prepend (← codePoint? [a, b, c, d, e, f, g, h]) (multilineBasic .inText rest)
      | '\\', e :: rest =>
        match escaped? e with
        | some meant => prepend meant (multilineBasic .inText rest)
        | none => multilineBasic .afterBackslash (e :: rest)
      | c, r => if isPlain c then prepend c (multilineBasic .inText r) else none
  | [] => none

def multilineLiteral : Reader (List Char)
  | '\r' :: '\n' :: r => prepend '\n' (multilineLiteral r)
  | '\'' :: '\'' :: '\'' :: '\'' :: '\'' :: r => some (['\'', '\''], r)
  | '\'' :: '\'' :: '\'' :: '\'' :: r => some (['\''], r)
  | '\'' :: '\'' :: '\'' :: r => some ([], r)
  | c :: r => if c = '\n' ∨ isPlain c then prepend c (multilineLiteral r) else none
  | [] => none

def skipFirstNewLine (s : List Char) : List Char :=
  (dropNewLine? s).getD s

def quotedString : Reader (List Char)
  | '"' :: '"' :: '"' :: r => multilineBasic .inText (skipFirstNewLine r)
  | '\'' :: '\'' :: '\'' :: r => multilineLiteral (skipFirstNewLine r)
  | '"' :: r => basicString r
  | '\'' :: r => literalString r
  | _ => none

def isBareKeyChar (c : Char) : Bool :=
  c.isAlphanum || c == '_' || c == '-'

def simpleKey (s : List Char) : Option (String × List Char) :=
  match s with
  | '"' :: r => (basicString r).map fun (k, r) => (String.ofList k, r)
  | '\'' :: r => (literalString r).map fun (k, r) => (String.ofList k, r)
  | _ =>
    let bare := s.takeWhile isBareKeyChar
    if bare.isEmpty then none else some (String.ofList bare, s.drop bare.length)

def names : (limit : Nat) → Reader (List String)
  | 0, _ => none
  | limit + 1, s => do
    let (name, r) ← simpleKey s
    match skipGap r with
    | '.' :: rest =>
      let (others, r) ← names limit (skipGap rest)
      return (name :: others, r)
    | rest => return ([name], rest)

def maxDepth : Nat := 79

def dottedKey : Reader (List String) :=
  names maxDepth

end SymbolDocs.Settings.Toml
