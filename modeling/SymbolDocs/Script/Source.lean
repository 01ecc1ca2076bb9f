import SymbolDocs.Script.Syntax

namespace SymbolDocs.Script

open Text (Octets)

inductive Token where
  | word (w : Word)
  | redirect (channel : Nat) (direction : Direction) (dropsTabs : Bool)
  | newline
  | semicolon
  | clauseEnd
  | ampersand
  | and
  | or
  | pipe
  | opening
  | closing
  | finish

structure Announced where
  stop : Octets
  isLiteral : Bool
  dropsTabs : Bool

structure Source where
  rest : List Char
  line : Nat := 1
  ahead : Option Token := none
  announced : List Announced := []
  documents : Array Word := #[]
  aliases : List (Octets × Octets) := []
  opened : List (Octets × Nat) := []
  goesOn : Option Nat := none

def Source.size (s : Source) : Nat :=
  s.rest.length * (s.aliases.foldl (fun n a => n + a.2.length) 1)

structure Fault where
  line : Nat
  reason : String
  deriving DecidableEq, Repr

abbrev Reader := StateT Source (Except Fault)

namespace Reader

def fail (reason : String) : Reader α := fun s =>
  .error ⟨s.line, reason⟩

def iterate (step : σ → Reader (σ ⊕ α)) : (fuel : Nat) → σ → Reader α
  | 0, _ => fail "too long"
  | fuel + 1, a => do
    match ← step a with
    | .inl next => iterate step fuel next
    | .inr result => return result

def peek : Reader (Option Char) := fun s =>
  .ok (s.rest.head?, s)

def skip : Reader Unit := fun s =>
  let line := if s.rest.head? = some '\n' then s.line + 1 else s.line
  .ok ((), { s with rest := s.rest.tail, line })

def skipJoints : Reader Unit := fun s =>
  let rec go (line : Nat) : List Char → Nat × List Char
    | '\\' :: '\n' :: r => go (line + 1) r
    | r => (line, r)
  let (line, rest) := go s.line s.rest
  .ok ((), { s with rest, line })

def peekJoined : Reader (Option Char) := do
  skipJoints
  peek

def takeWhile (p : Char → Bool) : Reader Octets := do
  let s ← get
  Reader.iterate (fun taken => do
    match ← peekJoined with
    | some c =>
      if p c then
        skip
        return .inl (c :: taken)
      else return .inr taken.reverse
    | none => return .inr taken.reverse) (s.rest.length + 1) []

def bound : Reader Nat := do
  let s ← get
  return 2 * s.size + 4

end Reader

end SymbolDocs.Script
