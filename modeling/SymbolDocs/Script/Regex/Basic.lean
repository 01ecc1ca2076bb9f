import SymbolDocs.Script.CharClass
/-!
Regular expressions with groups. Of all matches that begin leftmost the longest counts.
-/

namespace SymbolDocs.Script

open Text (Octets)

inductive Anchor where
  | start
  | finish
  | wordStart
  | wordEnd
  | wordEdge
  | noWordEdge
  | noWordBefore
  | noWordAfter
  deriving DecidableEq, Repr

inductive Regex where
  | empty
  | one (set : CharSet)
  | anchor (a : Anchor)
  | seq (a b : Regex)
  | either (a b : Regex)
  | repeated (r : Regex) (least : Nat) (most : Option Nat)
  | group (number : Nat) (r : Regex)
  | back (number : Nat)
  deriving DecidableEq, Repr

/-- A place in a text: what lies before it, the nearest character first, what lies behind it, and
what the groups have matched so far. -/
structure Spot where
  before : List Char
  after : List Char
  groups : List (Nat × Octets) := []
  deriving DecidableEq, Repr

namespace Spot

def ofText (text : Octets) : Spot := ⟨[], text, []⟩

def isWordChar (c : Char) : Bool := c.isAlphanum || c == '_'

def meets (s : Spot) (a : Anchor) : Bool :=
  let left := (s.before.head?.map isWordChar).getD false
  let right := (s.after.head?.map isWordChar).getD false
  match a with
  | .start => s.before.isEmpty
  | .finish => s.after.isEmpty
  | .wordStart => !left && right
  | .wordEnd => left && !right
  | .wordEdge => left != right
  | .noWordEdge => left == right
  | .noWordBefore => !left
  | .noWordAfter => !right

def advance (s : Spot) (n : Nat) : Spot :=
  { s with before := (s.after.take n).reverse ++ s.before, after := s.after.drop n }

def textTo (s t : Spot) : Octets :=
  s.after.take (s.after.length - t.after.length)

def group? (s : Spot) (number : Nat) : Option Octets :=
  (s.groups.find? fun g => g.1 == number).map (·.2)

def setGroup (s : Spot) (number : Nat) (text : Octets) : Spot :=
  { s with groups := (number, text) :: s.groups.filter fun g => g.1 != number }

def distinct (spots : List Spot) : List Spot :=
  spots.eraseDupsBy fun s t => s.after.length == t.after.length && s.groups == t.groups

end Spot

namespace Regex

/-- The places that one more repetition leads to; it must lead on once there are enough of them. -/
def nextLevel (step : Spot → List Spot) (mustLeadOn : Bool) (level : List Spot) : List Spot :=
  Spot.distinct (level.flatMap fun s =>
    (step s).filter fun t => !mustLeadOn || t.after.length < s.after.length)

def levels (step : Spot → List Spot) (least : Nat) (most : Option Nat) :
    (fuel : Nat) → (count : Nat) → List Spot → List Spot
  | 0, _, _ => []
  | fuel + 1, count, level =>
    if level.isEmpty then []
    else
      let here := if least ≤ count then level else []
      if most = some count then here
      else levels step least most fuel (count + 1)
        (nextLevel step (least ≤ count) level) ++ here

def spots (ignoresCase : Bool) : Regex → Spot → List Spot
  | .empty, s => [s]
  | .one set, s => match s.after with
    | [] => []
    | c :: _ =>
      if (if ignoresCase then set.admitsAnyCase c else set.admits c) then [s.advance 1] else []
  | .anchor a, s => if s.meets a then [s] else []
  | .seq a b, s => Spot.distinct ((spots ignoresCase a s).flatMap (spots ignoresCase b))
  | .either a b, s => Spot.distinct (spots ignoresCase a s ++ spots ignoresCase b s)
  | .repeated r least most, s =>
    levels (spots ignoresCase r) least most (s.after.length + least + 2) 0 [s]
  | .group number r, s =>
    (spots ignoresCase r s).map fun t => t.setGroup number (s.textTo t)
  | .back number, s => match s.group? number with
    | none => []
    | some text =>
      let same (a b : Char) : Bool := a == b || (ignoresCase && a.toLower == b.toLower)
      let here := s.after.take text.length
      if here.length = text.length ∧ (List.zipWith same here text).all id then
        [s.advance text.length]
      else []

def furthest : List Spot → Option Spot
  | [] => none
  | s :: rest => match furthest rest with
    | none => some s
    | some t => some (if t.after.length < s.after.length then t else s)

def matchAt (r : Regex) (ignoresCase : Bool) (s : Spot) : Option Spot :=
  furthest (spots ignoresCase r { s with groups := [] })

def findFrom (r : Regex) (ignoresCase : Bool) : (fuel : Nat) → Spot → Option (Spot × Spot)
  | 0, _ => none
  | fuel + 1, s =>
    match r.matchAt ignoresCase s with
    | some t => some (s, t)
    | none => if s.after.isEmpty then none else findFrom r ignoresCase fuel (s.advance 1)

def find (r : Regex) (ignoresCase : Bool) (s : Spot) : Option (Spot × Spot) :=
  r.findFrom ignoresCase (s.after.length + 1) s

def occursIn (r : Regex) (ignoresCase : Bool) (text : Octets) : Bool :=
  (r.find ignoresCase (.ofText text)).isSome

/-- All matches one after the other. An empty one right behind another does not count. -/
def findAll (r : Regex) (ignoresCase : Bool) :
    (fuel : Nat) → (afterMatch : Bool) → Spot → List (Spot × Spot)
  | 0, _, _ => []
  | fuel + 1, afterMatch, s =>
    match r.find ignoresCase s with
    | none => []
    | some (a, b) =>
      let isEmpty := a.after.length == b.after.length
      let touches := afterMatch && a.after.length == s.after.length
      if isEmpty && touches then
        if s.after.isEmpty then [] else findAll r ignoresCase fuel false (s.advance 1)
      else if isEmpty then
        (a, b) :: (if b.after.isEmpty then [] else findAll r ignoresCase fuel false (b.advance 1))
      else (a, b) :: findAll r ignoresCase fuel true b

def allIn (r : Regex) (ignoresCase : Bool) (text : Octets) : List (Spot × Spot) :=
  r.findAll ignoresCase (2 * text.length + 2) false (.ofText text)

end Regex

end SymbolDocs.Script
