import SymbolDocs.Script.Arithmetic
import SymbolDocs.Script.Glob
import SymbolDocs.Script.Shell

namespace SymbolDocs.Script

open Text (Octets)

abbrev Capture := List Command → Act Octets

inductive Origin where
  | written
  | quoted
  | expanded
  deriving DecidableEq, Repr

inductive Piece where
  | char (c : Char) (origin : Origin)
  | empty
  | gap
  deriving DecidableEq, Repr

namespace Piece

def ofText (origin : Origin) (text : Octets) : List Piece :=
  text.map fun c => char c origin

/-- The pieces of a value. One in quotes is there even if it is empty. -/
def ofValue (isQuoted : Bool) (text : Octets) : List Piece :=
  if !isQuoted then ofText .expanded text
  else if text.isEmpty then [empty]
  else ofText .quoted text

def text (pieces : List Piece) : Octets :=
  pieces.flatMap fun
    | char c _ => [c]
    | empty => []
    | gap => [' ']

def marks (pieces : List Piece) : List Mark :=
  pieces.flatMap fun
    | char c origin => [⟨c, origin == .quoted⟩]
    | empty => []
    | gap => [⟨' ', true⟩]

def asExpanded : Piece → Piece
  | char c .written => char c .expanded
  | p => p

end Piece

inductive Value where
  | unset
  | text (t : Octets)
  | all (arguments : List Octets) (isJoined : Bool)

def letters (o : Options) : Octets :=
  let on := [(o.endsOnFailure, 'e'), (o.keepsPatterns, 'f'), (o.onlyReads, 'n'), (o.traces, 'x'),
    (o.echoes, 'v'), (o.protectsFiles, 'C'), (o.exportsAll, 'a'), (o.refusesUnset, 'u')]
  on.filterMap fun (isOn, letter) => if isOn then some letter else none

def processNumber : Nat := 1000

namespace Shell

def parameter (s : Shell) (name : Octets) : Value :=
  match name with
  | ['@'] => .all s.arguments false
  | ['*'] => .all s.arguments true
  | ['#'] => .text (toString s.arguments.length).toList
  | ['?'] => .text (toString s.status).toList
  | ['$'] => .text (toString processNumber).toList
  | ['-'] => .text (letters s.options)
  | ['!'] => match s.jobs.head? with
    | some (number, _) => .text (toString number).toList
    | none => .unset
  | _ =>
    if name.all Char.isDigit then
      match Arithmetic.digitsValue 10 name with
      | 0 => .text s.name
      | n + 1 => match s.arguments[n]? with
        | some a => .text a
        | none => .unset
    else match s.value? name with
      | some v => .text v
      | none => .unset

def separators (s : Shell) : Octets :=
  (s.get "IFS").getD [' ', '\t', '\n']

def joint (s : Shell) : Octets :=
  match s.get "IFS" with
  | none => [' ']
  | some ifs => ifs.take 1

end Shell

def joinWith (joint : Octets) : List Octets → Octets
  | [] => []
  | [t] => t
  | t :: ts => t ++ joint ++ joinWith joint ts

namespace Value

def isEmpty : Value → Bool
  | unset => true
  | text t => t.isEmpty
  | all arguments _ => match arguments with
    | [] => true
    | [t] => t.isEmpty
    | _ => false

def isUnset : Value → Bool
  | unset => true
  | text _ => false
  | all arguments _ => arguments.isEmpty

def pieces (joint : Octets) (isQuoted : Bool) : Value → List Piece
  | unset => if isQuoted then [.empty] else []
  | text t => Piece.ofValue isQuoted t
  | all arguments isJoined =>
    if isQuoted && isJoined then Piece.ofValue true (joinWith joint arguments)
    else (arguments.map (Piece.ofValue isQuoted)).intersperse [.gap] |>.flatten

def whole (joint : Octets) : Value → Octets
  | unset => []
  | text t => t
  | all arguments isJoined => joinWith (if isJoined then joint else [' ']) arguments

end Value

def trimOutput (text : Octets) : Octets :=
  ((text.filter (·.toNat != 0)).reverse.dropWhile (· == '\n')).reverse

def calculate (text : Octets) : Act Octets := do
  let s ← get
  match Arithmetic.run (fun name => (s.value? name).getD []) text with
  | .error fault => abort (fault.message text)
  | .ok (n, assigned) =>
    assigned.forM fun (name, n) => setVariable name (toString n).toList
    return (toString n).toList

def requireValue (name : Octets) (v : Value) : Act Unit := do
  let isRefused := (← get).options.refusesUnset && match v with
    | .unset => true
    | _ => false
  if isRefused then abort (name ++ Octets.ofText ": parameter not set")

mutual

def partPieces (capture : Capture) : Part → Act (List Piece)
  | .plain c => return [.char c .written]
  | .quoted text => return Piece.ofValue true text
  | .output body isQuoted => do
    return Piece.ofValue isQuoted (trimOutput (← capture body))
  | .arithmetic expression isQuoted => do
    let text := Piece.text (← wordPieces capture expression)
    return Piece.ofValue isQuoted (← calculate text)
  | .parameter name use isQuoted => usePieces capture name isQuoted use

def wordPieces (capture : Capture) : List Part → Act (List Piece)
  | [] => return []
  | p :: ps => do
    let first ← partPieces capture p
    let rest ← wordPieces capture ps
    return first ++ rest

def usePieces (capture : Capture) (name : Octets) (isQuoted : Bool) : Use → Act (List Piece)
  | .unknown => abortWith "Bad substitution"
  | .value => do
    let s ← get
    let v := s.parameter name
    requireValue name v
    return v.pieces s.joint isQuoted
  | .length => do
    let s ← get
    let v := s.parameter name
    requireValue name v
    return Piece.ofValue isQuoted (toString (v.whole s.joint).length).toList
  | .trim atEnd isLongest pattern => do
    let s ← get
    let v := s.parameter name
    requireValue name v
    let marks := Piece.marks (← wordPieces capture pattern)
    return Piece.ofValue isQuoted (Glob.trim marks atEnd isLongest (v.whole s.joint))
  | .fallback rule evenIfEmpty word => do
    let s ← get
    let v := s.parameter name
    let isMissing := v.isUnset || (evenIfEmpty && v.isEmpty)
    let inserted : Act (List Piece) := do
      let ps ← wordPieces capture word
      return if isQuoted && ps.isEmpty then [.empty] else ps.map Piece.asExpanded
    match rule, isMissing with
    | .instead, true => return if isQuoted then [.empty] else []
    | .instead, false => inserted
    | _, false => return v.pieces s.joint isQuoted
    | .use, true => inserted
    | .assign, true =>
      let text := Piece.text (← wordPieces capture word)
      if !isName name then abort (name ++ Octets.ofText ": bad variable name")
      setVariable name text
      return Piece.ofValue isQuoted text
    | .complain, true =>
      let message := Piece.text (← wordPieces capture word)
      let usual := if evenIfEmpty then "parameter not set or null" else "parameter not set"
      let message := if word.isEmpty then Octets.ofText usual else message
      abort (name ++ Octets.ofText ": " ++ message)

end

def homeOf (s : Shell) (user : Octets) : Option Octets :=
  if user.isEmpty then s.get "HOME"
  else if user = "root".toList then some "/root".toList
  else none

def expandTilde (s : Shell) (stopsAtColon : Bool) (w : Word) : Word :=
  match w with
  | .plain '~' :: rest =>
    let isEnd : Part → Bool
      | .plain c => c == '/' || (stopsAtColon && c == ':')
      | _ => false
    let user := rest.takeWhile fun p => !isEnd p
    match Word.bareText? user with
    | some name => match homeOf s name with
      | some home => .quoted home :: rest.drop user.length
      | none => w
    | none => w
  | _ => w

def expandTildes (s : Shell) : (fuel : Nat) → Word → Word
  | 0, w => w
  | fuel + 1, w =>
    let isColon : Part → Bool
      | .plain ':' => true
      | _ => false
    let first := w.takeWhile fun p => !isColon p
    let start := expandTilde s true first
    match w.drop first.length with
    | [] => start
    | colon :: rest => start ++ colon :: expandTildes s fuel rest

structure Fields where
  complete : List (List Mark) := []
  current : List Mark := []
  isStarted : Bool := false
  afterBlank : Bool := false

namespace Fields

def add (f : Fields) (m : Mark) : Fields :=
  { f with current := m :: f.current, isStarted := true, afterBlank := false }

def close (f : Fields) : Fields :=
  { f with complete := f.current.reverse :: f.complete, current := [], isStarted := false }

def closeIfStarted (f : Fields) : Fields :=
  if f.isStarted then f.close else f

/-- Adds a piece. Blanks divide fields and are not counted; any other separator ends one. -/
def step (separators : Octets) (f : Fields) : Piece → Fields
  | .empty => { f with isStarted := true, afterBlank := false }
  | .gap => f.closeIfStarted
  | .char c origin =>
    if origin == .expanded && separators.contains c then
      if isSpace c || c == '\n' then
        if f.isStarted then { f.close with afterBlank := true } else f
      else if f.isStarted then f.close
      else if f.afterBlank then { f with afterBlank := false }
      else f.close
    else f.add ⟨c, origin == .quoted⟩

def all (f : Fields) : List (List Mark) :=
  f.closeIfStarted.complete.reverse

end Fields

def divide (separators : Octets) (pieces : List Piece) : List (List Mark) :=
  (pieces.foldl (Fields.step separators) {}).all

def pathsOf (s : Shell) (field : List Mark) : List Octets :=
  let itself := [field.map Mark.char]
  if s.options.keepsPatterns || !Glob.isPattern field then itself
  else match Glob.paths s.files field with
    | [] => itself
    | paths => paths

def expandFields (capture : Capture) (w : Word) : Act (List Octets) := do
  let pieces ← wordPieces capture (expandTilde (← get) false w)
  let s ← get
  return (divide s.separators pieces).flatMap (pathsOf s)

def expandWhole (capture : Capture) (w : Word) : Act Octets := do
  return Piece.text (← wordPieces capture (expandTilde (← get) false w))

def expandValue (capture : Capture) (w : Word) : Act Octets := do
  return Piece.text (← wordPieces capture (expandTildes (← get) (w.length + 1) w))

def expandPattern (capture : Capture) (w : Word) : Act (List Mark) := do
  return Piece.marks (← wordPieces capture (expandTilde (← get) false w))

end SymbolDocs.Script
