import SymbolDocs.Script.Arithmetic
import SymbolDocs.Files.FileSystem

namespace SymbolDocs.Script

open Text (Octets)

namespace Condition

inductive Arity where
  | unary
  | binary
  | not
  | and
  | or
  | opening
  | closing
  deriving DecidableEq, Repr

def unaryOperators : List String :=
  ["-b", "-c", "-d", "-e", "-f", "-G", "-g", "-h", "-k", "-L", "-n", "-O", "-p", "-r", "-S", "-s",
    "-t", "-u", "-w", "-x", "-z"]

def binaryOperators : List String :=
  ["=", "!=", "<", ">", "-eq", "-ne", "-lt", "-le", "-gt", "-ge", "-nt", "-ot", "-ef"]

def arity? (word : Octets) : Option Arity :=
  let text := String.ofList word
  if unaryOperators.contains text then some .unary
  else if binaryOperators.contains text then some .binary
  else if text = "!" then some .not
  else if text = "-a" then some .and
  else if text = "-o" then some .or
  else if text = "(" then some .opening
  else if text = ")" then some .closing
  else none

abbrev Fault := Octets

def fault (operator : Octets) (reason : String) : Fault :=
  if operator.isEmpty then Octets.ofText reason else operator ++ Octets.ofText (": " ++ reason)

def number (word : Octets) : Except Fault Int :=
  let illegal : Except Fault Int := .error (Octets.ofText "Illegal number: " ++ word)
  let (isNegative, ds) := match word.dropWhile Arithmetic.isBlank with
    | '-' :: r => (true, r)
    | '+' :: r => (false, r)
    | r => (false, r)
  let digits := ds.takeWhile Char.isDigit
  if digits.isEmpty || !(ds.drop digits.length).all Arithmetic.isBlank then illegal
  else
    let n : Int := Arithmetic.digitsValue 10 digits
    .ok (if isNegative then -n else n)

def isDevice (path : String) : Bool :=
  ["/dev/null", "/dev/stdin", "/dev/stdout", "/dev/stderr", "/dev/tty", "/dev/zero"].contains path

def isStanding (path : String) : Bool :=
  ["", "/bin", "/dev", "/etc", "/sbin", "/tmp", "/usr", "/usr/bin", "/usr/local", "/usr/local/bin",
    "/usr/local/sbin", "/usr/sbin", "/var"].contains (FileSystem.withoutEndSlashes path) &&
    path != ""

def isProgram (path : String) : Bool :=
  ["awk", "basename", "bash", "cat", "cp", "cut", "dash", "dirname", "echo", "env", "expr", "false",
    "find", "grep", "head", "ls", "mkdir", "mv", "printf", "rm", "sed", "sh", "sleep", "sort",
    "tail", "tee", "test", "touch", "tr", "true", "uniq", "wc", "xargs"].any fun name =>
    path == "/bin/" ++ name || path == "/usr/bin/" ++ name

def fileIs (fs : FileSystem) (operator : Char) (path : String) : Bool :=
  if isDevice path then operator == 'e' || operator == 'c' || operator == 'r' || operator == 'w'
  else if isStanding path then "edrwxs".toList.contains operator
  else if isProgram path then "efrwxs".toList.contains operator
  else match fs.get path, operator with
    | .error _, _ => false
    | .ok _, 'e' | .ok _, 'r' | .ok _, 'w' | .ok _, 'O' | .ok _, 'G' => true
    | .ok (.file _ _), 'f' => true
    | .ok .directory, 'd' => true
    | .ok (.file content _), 's' => content.size != 0
    | .ok .directory, 's' | .ok .directory, 'x' => true
    | .ok (.file _ executable), 'x' => executable
    | _, _ => false

def unary (fs : FileSystem) (operator operand : Octets) : Bool :=
  match operator with
  | ['-', 'n'] => !operand.isEmpty
  | ['-', 'z'] => operand.isEmpty
  | ['-', 't'] => false
  | ['-', c] => fileIs fs c (Octets.text operand)
  | _ => false

def isBefore : Octets → Octets → Bool
  | _, [] => false
  | [], _ :: _ => true
  | a :: as, b :: bs => a.toNat < b.toNat || (a == b && isBefore as bs)

def binary (fs : FileSystem) (operator a b : Octets) : Except Fault Bool := do
  let same : Bool :=
    match fs.get (Octets.text a), fs.get (Octets.text b), fs.locate (Octets.text a),
        fs.locate (Octets.text b) with
    | .ok _, .ok _, .ok p, .ok q => p == q
    | _, _, _, _ => false
  let there (path : Octets) : Bool := fs.exists? (Octets.text path)
  match String.ofList operator with
  | "=" => .ok (a == b)
  | "!=" => .ok (a != b)
  | "<" => .ok (isBefore a b)
  | ">" => .ok (isBefore b a)
  | "-eq" => .ok ((← number a) == (← number b))
  | "-ne" => .ok ((← number a) != (← number b))
  | "-lt" => .ok (decide ((← number a) < (← number b)))
  | "-le" => .ok (decide ((← number a) ≤ (← number b)))
  | "-gt" => .ok (decide ((← number b) < (← number a)))
  | "-ge" => .ok (decide ((← number b) ≤ (← number a)))
  | "-ef" => .ok same
  | "-nt" => .ok (there a && !there b)
  | _ => .ok (there b && !there a)

/-- What a word is where others follow it. An operator for one operand is an operand itself at the
end or before an operator for two. -/
def roleOf (words : List Octets) : Option Arity :=
  match words with
  | [] => none
  | w :: rest => match arity? w, rest with
    | some .unary, [] => none
    | some .unary, next :: _ :: _ => if arity? next = some .binary then none else some .unary
    | some .opening, [] => none
    | role, _ => role

abbrev Evaluated := Except Fault (Bool × List Octets)

mutual

def disjunction (fs : FileSystem) : (fuel : Nat) → List Octets → Evaluated
  | 0, ws => .ok (false, ws)
  | fuel + 1, ws => do
    let (value, at_) ← conjunction fs fuel ws
    match at_.tail with
    | op :: rest =>
      if roleOf (op :: rest) = some .or then
        let (other, at_) ← disjunction fs fuel rest
        .ok (value || other, at_)
      else .ok (value, at_)
    | [] => .ok (value, at_)

def conjunction (fs : FileSystem) : (fuel : Nat) → List Octets → Evaluated
  | 0, ws => .ok (false, ws)
  | fuel + 1, ws => do
    let (value, at_) ← negation fs fuel ws
    match at_.tail with
    | op :: rest =>
      if roleOf (op :: rest) = some .and then
        let (other, at_) ← conjunction fs fuel rest
        .ok (value && other, at_)
      else .ok (value, at_)
    | [] => .ok (value, at_)

def negation (fs : FileSystem) : (fuel : Nat) → List Octets → Evaluated
  | 0, ws => .ok (false, ws)
  | fuel + 1, ws =>
    if roleOf ws = some .not then do
      match ws.tail with
      | [] => .ok (true, ws)
      | rest =>
        let (value, at_) ← negation fs fuel rest
        .ok (!value, at_)
    else primary fs fuel ws

def primary (fs : FileSystem) : (fuel : Nat) → List Octets → Evaluated
  | 0, ws => .ok (false, ws)
  | fuel + 1, ws =>
    match ws, roleOf ws with
    | [], _ => .ok (false, [])
    | _ :: rest, some .opening =>
      if roleOf rest = some .closing then .ok (false, rest)
      else do
        let (value, at_) ← disjunction fs fuel rest
        if roleOf at_.tail = some .closing then .ok (value, at_.tail)
        else .error (fault [] "closing paren expected")
    | operator :: rest, some .unary =>
      match rest with
      | [] => .error (fault operator "argument expected")
      | operand :: _ => .ok (unary fs operator operand, rest)
    | a :: rest, _ =>
      match rest, roleOf rest with
      | operator :: operands, some .binary =>
        match operands with
        | [] => .error (fault operator "argument expected")
        | b :: _ => do .ok (← binary fs operator a b, operands)
      | _, _ => .ok (!a.isEmpty, ws)

end

def whole (fs : FileSystem) (ws : List Octets) : Except Fault Bool := do
  let (value, at_) ← disjunction fs (4 * ws.length + 8) ws
  match at_ with
  | last :: _ :: _ => .error (fault last "unexpected operator")
  | _ => .ok value

def three (fs : FileSystem) (a operator b : Octets) : Option (Except Fault Bool) :=
  if arity? operator = some .binary then some (binary fs operator a b) else none

def holds (fs : FileSystem) : (fuel : Nat) → List Octets → Except Fault Bool
  | 0, _ => .ok false
  | _, [] => .ok false
  | fuel + 1, ws =>
    let bracketed : Option (List Octets) :=
      if ws.head? = some ['('] ∧ ws.getLast? = some [')'] ∧ 1 < ws.length then
        some ws.tail.dropLast
      else none
    let few (ws : List Octets) : Except Fault Bool :=
      match bracketed with
      | some inner => whole fs inner
      | none =>
        if ws.head? = some ['!'] then (holds fs fuel ws.tail).map (!·) else whole fs ws
    match ws with
    | [a, operator, b] => (three fs a operator b).getD (few ws)
    | [_, _, _, _] => few ws
    | ws => whole fs ws

end Condition

def test (fs : FileSystem) (ws : List Octets) : Except Condition.Fault Bool :=
  Condition.holds fs (ws.length + 1) ws

end SymbolDocs.Script
