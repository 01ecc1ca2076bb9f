import SymbolDocs.Script.CharClass
import SymbolDocs.Files.FileSystem

namespace SymbolDocs.Script

open Text (Octets)

/-- A character, and whether it can only stand for itself. -/
structure Mark where
  char : Char
  isLiteral : Bool
  deriving DecidableEq, Repr

namespace Glob

inductive Item where
  | star
  | one (set : CharSet)
  deriving DecidableEq, Repr

def setItems (fuel : Nat) (isFirst : Bool) (marks : List Mark) :
    Option (List SetItem × List Mark) :=
  match fuel, marks with
  | 0, _ | _, [] => none
  | fuel + 1, m :: r =>
    if m.char = ']' ∧ !m.isLiteral ∧ !isFirst then some ([], r)
    else
      let next : Option (SetItem × List Mark) :=
        match m.char, m.isLiteral, r with
        | '[', false, ⟨':', false⟩ :: r' =>
          (className? (r'.map Mark.char)).map fun (name, rest) =>
            (.named name, r'.drop (r'.length - rest.length))
        | '\\', false, e :: r' => some (.range e.char e.char, r')
        | c, _, ⟨'-', false⟩ :: e :: r' =>
          if e.char = ']' ∧ !e.isLiteral then none else some (.range c e.char, r')
        | _, _, _ => none
      let (item, rest) := next.getD (.range m.char m.char, r)
      (setItems fuel false rest).map fun (items, t) => (item :: items, t)

def set? (marks : List Mark) : Option (CharSet × List Mark) :=
  let (isNegated, body) := match marks with
    | ⟨'!', false⟩ :: r | ⟨'^', false⟩ :: r => (true, r)
    | r => (false, r)
  (setItems (body.length + 1) true body).map fun (items, r) => (.among isNegated items, r)

def itemsFrom : (fuel : Nat) → List Mark → List Item
  | 0, _ => []
  | _ + 1, [] => []
  | fuel + 1, m :: r =>
    let plain := Item.one (.exactly m.char) :: itemsFrom fuel r
    if m.isLiteral then plain
    else match m.char, r with
      | '*', _ => .star :: itemsFrom fuel r
      | '?', _ => .one .any :: itemsFrom fuel r
      | '\\', e :: r' => .one (.exactly e.char) :: itemsFrom fuel r'
      | '[', _ => match set? r with
        | some (set, r') => .one set :: itemsFrom fuel r'
        | none => plain
      | _, _ => plain

def items (marks : List Mark) : List Item :=
  itemsFrom (marks.length + 1) marks

def fits : List Item → List Char → Bool
  | [], cs => cs.isEmpty
  | .one set :: is, cs => match cs with
    | [] => false
    | c :: r => set.admits c && fits is r
  | .star :: is, cs => fits is cs || match cs with
    | [] => false
    | _ :: r => fits (.star :: is) r
termination_by is cs => (is.length, cs.length)

def isPattern (marks : List Mark) : Bool :=
  marks.any fun m => !m.isLiteral && (m.char == '*' || m.char == '?' || m.char == '[')

def cuts : List Char → List (List Char × List Char)
  | [] => [([], [])]
  | c :: r => ([], c :: r) :: (cuts r).map fun (a, b) => (c :: a, b)

/-- What is left of a text without the start or the end that fits; nothing is cut off if none
does. -/
def trim (marks : List Mark) (atEnd isLongest : Bool) (text : Octets) : Octets :=
  let pattern := items marks
  let ways := if atEnd == isLongest then cuts text else (cuts text).reverse
  let found := ways.find? fun (a, b) => fits pattern (if atEnd then b else a)
  match found with
  | some (a, b) => if atEnd then a else b
  | none => text

def pieces : List Mark → List (List Mark)
  | [] => [[]]
  | m :: r =>
    if m.char = '/' then [] :: pieces r
    else match pieces r with
      | [] => [[m]]
      | p :: ps => (m :: p) :: ps

def namesIn (fs : FileSystem) (dir : String) : List Octets :=
  match fs.get dir, fs.locate dir with
  | .ok .directory, .ok there => ["."  , ".."].map Octets.ofText ++
      (fs.entries.filterMap fun e =>
        if e.1.dropLast = there ∧ e.1 ≠ [] then e.1.getLast?.map Octets.ofText else none)
  | _, _ => []

/-- The names that a piece of a path stands for. Names with a dot in front are only meant by
patterns with one. -/
def namesFor (fs : FileSystem) (dir : Octets) (piece : List Mark) : List Octets :=
  let pattern := items piece
  let dir := if dir.isEmpty then "." else Octets.text dir
  (namesIn fs dir).filter fun name =>
    fits pattern name && (name.head? != some '.' || piece.head?.map Mark.char == some '.')

def pathsFor (fs : FileSystem) : List (List Mark) → Octets → List Octets
  | [], path => [path]
  | [piece], path =>
    if isPattern piece then (namesFor fs path piece).map (path ++ ·)
    else
      let whole := path ++ piece.map Mark.char
      if fs.exists? (Octets.text whole) then [whole] else []
  | piece :: rest, path =>
    let names := if isPattern piece then namesFor fs path piece else [piece.map Mark.char]
    names.flatMap fun name =>
      let next := path ++ name ++ ['/']
      if fs.isDirectory (Octets.text next) then pathsFor fs rest next else []

def inOrder : Octets → Octets → Bool
  | [], _ => true
  | _ :: _, [] => false
  | a :: as, b :: bs => a.toNat < b.toNat || (a == b && inOrder as bs)

def paths (fs : FileSystem) (marks : List Mark) : List Octets :=
  (pathsFor fs (pieces marks) []).mergeSort inOrder

end Glob

end SymbolDocs.Script
