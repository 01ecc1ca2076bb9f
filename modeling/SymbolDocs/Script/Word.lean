import SymbolDocs.Script.Source

namespace SymbolDocs.Script

open Text (Octets)
open Reader (fail peek skip peekJoined)

abbrev Inner := (isBracketed : Bool) → Reader (List Command)

/-- Where parts of a word stand. This decides what ends them and what quotes mean. -/
inductive Place where
  | bare
  | double
  | braced (isQuoted : Bool)
  | arithmetic (depth : Nat)
  | document
  deriving DecidableEq, Repr

namespace Place

def isQuoted : Place → Bool
  | bare => false
  | braced isQuoted => isQuoted
  | _ => true

def literal (p : Place) (c : Char) : Part :=
  if p.isQuoted then .quoted [c] else .plain c

/-- Whether a backslash takes away the meaning of a character; elsewhere it stands for itself. -/
def isEscapable (p : Place) (c : Char) : Bool :=
  if p.isQuoted then
    c == '\\' || c == '$' || c == backquote || (c == '"' && p != .document) ||
      (c == '\x7d' && p == .braced true)
  else true

end Place

def isOperator (c : Char) : Bool := ";&|<>()".toList.contains c

def isSpecialParameter (c : Char) : Bool := c.isDigit || "#?$!-*@".toList.contains c

def singleQuoted : Reader Octets := do
  Reader.iterate (fun taken => do
    match ← peek with
    | none => fail "Unterminated quoted string"
    | some c =>
      skip
      return if c = '\'' then .inr taken.reverse else .inl (c :: taken)) (← Reader.bound) []

def escaped (p : Place) : Reader Word := do
  match ← peek with
  | none => return [.quoted ['\\']]
  | some c =>
    skip
    return if c = '\n' then []
      else if p.isEscapable c then [.quoted [c]]
      else [.quoted ['\\', c]]

def backquoted (isQuoted : Bool) : Reader Octets := do
  Reader.iterate (fun taken => do
    match ← peek with
    | none => fail "EOF in backquote substitution"
    | some c =>
      skip
      if c = backquote then return .inr taken.reverse
      else if c = '\\' then
        match ← peek with
        | none => return .inl (c :: taken)
        | some d =>
          skip
          if d = '\n' then return .inl taken
          else if d = '\\' ∨ d = '$' ∨ d = backquote ∨ (isQuoted ∧ d = '"') then
            return .inl (d :: taken)
          else return .inl (d :: c :: taken)
      else return .inl (c :: taken)) (← Reader.bound) []

def bracketed (inner : Inner) : Reader (List Command) := do
  let outer ← get
  set { outer with announced := [] }
  let body ← inner true
  modify fun s => { s with announced := outer.announced }
  return body

def betweenBackquotes (inner : Inner) (isQuoted : Bool) : Reader (List Command) := do
  let text ← backquoted isQuoted
  let outer ← get
  set { outer with rest := text, line := 1, announced := [], opened := [], goesOn := none }
  let body ← inner false
  let documents := (← get).documents
  set { outer with documents }
  return body

def use (again : Place → Reader Word) (isQuoted : Bool) : Reader Use := do
  let unknown : Reader Use := do
    let _ ← again (.braced isQuoted)
    return .unknown
  let fallback (evenIfEmpty : Bool) (c : Option Char) : Reader Use := do
    let rule : Option Fallback := match c with
      | some '-' => some .use
      | some '=' => some .assign
      | some '?' => some .complain
      | some '+' => some .instead
      | _ => none
    match rule with
    | none => unknown
    | some rule =>
      skip
      return .fallback rule evenIfEmpty (← again (.braced isQuoted))
  let trim (atEnd : Bool) (mark : Char) : Reader Use := do
    skip
    let isLongest := (← peekJoined) == some mark
    if isLongest then skip
    return .trim atEnd isLongest (← again (.braced false))
  match ← peekJoined with
  | some '\x7d' =>
    skip
    return .value
  | some ':' =>
    skip
    fallback true (← peekJoined)
  | some '%' => trim true '%'
  | some '#' => trim false '#'
  | c => fallback false c

def bracedParameter (again : Place → Reader Word) (isQuoted : Bool) : Reader Part := do
  let name : Reader Octets := do
    match ← peekJoined with
    | some c =>
      if isNameStart c then Reader.takeWhile isNameChar
      else if c.isDigit then Reader.takeWhile Char.isDigit
      else if isSpecialParameter c then
        skip
        return [c]
      else return []
    | none => return []
  let plain (name : Octets) : Reader Part := do
    return .parameter name (← use again isQuoted) isQuoted
  let unknown : Reader Part := do
    let _ ← again (.braced isQuoted)
    return .parameter [] .unknown isQuoted
  let length (name : Octets) : Reader Part := do
    if (← peekJoined) = some '\x7d' then
      skip
      return .parameter name .length isQuoted
    else unknown
  let first ← name
  if first = ['#'] then
    match ← peekJoined with
    | some c =>
      if isNameChar c then length (← name)
      else
        let s ← get
        if c ≠ '\x7d' ∧ s.rest.tail.head? = some '\x7d' then
          if isSpecialParameter c then length (← name) else unknown
        else plain first
    | none => plain first
  else if first.isEmpty then unknown
  else plain first

def dollar (inner : Inner) (again : Place → Reader Word) (isQuoted : Bool) : Reader Part := do
  let literal : Part := if isQuoted then .quoted ['$'] else .plain '$'
  match ← peekJoined with
  | some '(' =>
    skip
    if (← peekJoined) = some '(' then
      skip
      return .arithmetic (← again (.arithmetic 0)) isQuoted
    else return .output (← bracketed inner) isQuoted
  | some '\x7b' =>
    skip
    bracedParameter again isQuoted
  | some c =>
    if isNameStart c then
      return .parameter (← Reader.takeWhile isNameChar) .value isQuoted
    else if isSpecialParameter c then
      skip
      return .parameter [c] .value isQuoted
    else return literal
  | none => return literal

def endOfParts : Place → Reader Word
  | .bare | .document => return []
  | .double => fail "Unterminated quoted string"
  | .braced _ => fail "Missing '\x7d'"
  | .arithmetic _ => fail "Missing '))'"

def parts (inner : Inner) : (fuel : Nat) → Place → Reader Word
  | 0, _ => fail "too long"
  | fuel + 1, place => do
    let more (first : Word) : Reader Word := do
      return first ++ (← parts inner fuel place)
    let close : Reader Word := do
      skip
      return []
    match ← peek with
    | none => endOfParts place
    | some c =>
      let acceptsQuotes := place == .bare || place == .braced false
      if place = .bare ∧ (isSpace c ∨ c = '\n' ∨ isOperator c) then return []
      else if place = .double ∧ c = '"' then close
      else if (place = .braced true ∨ place = .braced false) ∧ c = '\x7d' then close
      else
        skip
        if c = '\\' then more (← escaped place)
        else if c = '$' then more [← dollar inner (parts inner fuel) place.isQuoted]
        else if c = backquote then
          more [.output (← betweenBackquotes inner place.isQuoted) place.isQuoted]
        else if c = '\'' ∧ acceptsQuotes then more [.quoted (← singleQuoted)]
        else if c = '"' ∧ (acceptsQuotes ∨ place = .braced true) then
          let quoted ← parts inner fuel .double
          more (if quoted.isEmpty then [.quoted []] else quoted)
        else match place with
          | .arithmetic depth =>
            if c = '"' then parts inner fuel place
            else if c = '(' then
              return .quoted [c] :: (← parts inner fuel (.arithmetic (depth + 1)))
            else if c = ')' then
              if depth ≠ 0 then
                return .quoted [c] :: (← parts inner fuel (.arithmetic (depth - 1)))
              else if (← peekJoined) = some ')' then close
              else more [.quoted [c]]
            else more [.quoted [c]]
          | _ => more [place.literal c]

def word (inner : Inner) : Reader Word := do
  parts inner (← Reader.bound) .bare

def documentParts (inner : Inner) (text : Octets) : Reader Word := do
  let outer ← get
  set { outer with rest := text, announced := [] }
  let w ← parts inner (← Reader.bound) .document
  let documents := (← get).documents
  set { outer with documents }
  return w

end SymbolDocs.Script
