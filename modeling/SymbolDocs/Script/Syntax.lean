import SymbolDocs.Text.Octets

namespace SymbolDocs.Script

open Text (Octets)

inductive Direction where
  | input
  | output
  | overwrite
  | append
  | update
  | duplicate
  | document
  deriving DecidableEq, Repr

inductive Fallback where
  | use
  | assign
  | complain
  | instead
  deriving DecidableEq, Repr

mutual

/-- One part of a word. What stands in quotes is never divided. -/
inductive Part where
  | plain (c : Char)
  | quoted (text : Octets)
  | parameter (name : Octets) (use : Use) (isQuoted : Bool)
  | output (body : List Command) (isQuoted : Bool)
  | arithmetic (expression : List Part) (isQuoted : Bool)

inductive Use where
  | value
  | length
  | fallback (rule : Fallback) (evenIfEmpty : Bool) (word : List Part)
  | trim (atEnd isLongest : Bool) (pattern : List Part)
  | unknown

structure Redirection where
  channel : Nat
  direction : Direction
  word : List Part
  document : Nat

inductive Command where
  | simple (line : Nat) (assignments : List (Octets × List Part)) (words : List (List Part))
      (redirections : List Redirection)
  | redirected (line : Nat) (body : Command) (redirections : List Redirection)
  | group (body : List Command)
  | subshell (line : Nat) (body : List Command) (redirections : List Redirection)
  | pipeline (stages : List Command)
  | background (body : Command)
  | not (body : Command)
  | and (first second : Command)
  | or (first second : Command)
  | choice (condition yes no : List Command)
  | loop (goal : Bool) (condition body : List Command)
  | each (line : Nat) (name : Octets) (items : Option (List (List Part))) (body : List Command)
  | select (line : Nat) (subject : List Part)
      (clauses : List (List (List Part) × List Command))
  | define (name : Octets) (body : Command)

end

abbrev Word := List Part

instance : Inhabited Part := ⟨.quoted []⟩

instance : Inhabited Command := ⟨.group []⟩

def backquote : Char := Char.ofNat 96

def isNameStart (c : Char) : Bool := c.isAlpha || c == '_'

def isNameChar (c : Char) : Bool := c.isAlphanum || c == '_'

def isName (text : Octets) : Bool :=
  match text with
  | c :: r => isNameStart c && r.all isNameChar
  | [] => false

def isSpace (c : Char) : Bool := c == ' ' || c == '\t'

namespace Word

def bareText? : Word → Option Octets
  | [] => some []
  | .plain c :: rest => (bareText? rest).map (c :: ·)
  | _ :: _ => none

def unquoted (w : Word) : Octets :=
  w.flatMap fun
    | .plain c => [c]
    | .quoted t => t
    | _ => []

def hasQuotes (w : Word) : Bool :=
  w.any fun
    | .quoted _ => true
    | _ => false

def assignment? (w : Word) : Option (Octets × Word) :=
  let name := w.takeWhile fun
    | .plain c => isNameChar c
    | _ => false
  match w.drop name.length with
  | .plain '=' :: value => if isName (unquoted name) then some (unquoted name, value) else none
  | _ => none

def ofText (text : Octets) : Word := [.quoted text]

end Word

end SymbolDocs.Script
