import SymbolDocs.Script.Syntax

namespace SymbolDocs.Script

open Text (Octets)

namespace Arithmetic

inductive Operator where
  | times | dividedBy | rest
  | plus | minus
  | left | right
  | less | lessEqual | greater | greaterEqual
  | equal | unequal
  | both | differ | either
  deriving DecidableEq, Repr

def Operator.rank : Operator → Nat
  | times | dividedBy | rest => 0
  | plus | minus => 1
  | left | right => 2
  | less | lessEqual | greater | greaterEqual => 3
  | equal | unequal => 4
  | both => 5
  | differ => 6
  | either => 7

inductive Token where
  | number (n : Int)
  | name (text : Octets)
  | operator (o : Operator)
  | assign (o : Option Operator)
  | not | complement
  | and | or
  | question | colon
  | opening | closing
  | unknown
  deriving DecidableEq, Repr

inductive Expression where
  | number (n : Int)
  | name (text : Octets)
  | negate (e : Expression)
  | not (e : Expression)
  | complement (e : Expression)
  | binary (o : Operator) (a b : Expression)
  | and (a b : Expression)
  | or (a b : Expression)
  | choose (condition yes no : Expression)
  | assign (name : Octets) (o : Option Operator) (e : Expression)
  deriving Repr

inductive Fault where
  | malformed (reason : String)
  | illegalNumber (text : Octets)
  deriving DecidableEq, Repr

def modulus : Int := 0x10000000000000000

def wrap (n : Int) : Int :=
  let m := n % modulus
  if 2 * m < modulus then m else m - modulus

def hexValue (c : Char) : Nat :=
  if c.isDigit then c.toNat - '0'.toNat else c.toLower.toNat - 'a'.toNat + 10

def digitsValue (base : Nat) (ds : List Char) : Nat :=
  ds.foldl (fun n c => n * base + hexValue c) 0

/-- A number without a sign: hexadecimal behind `0x`, octal behind a zero, decimal else; and what
follows it. -/
def natural? (cs : List Char) : Option (Nat × List Char) :=
  match cs with
  | '0' :: x :: d :: r =>
    if (x = 'x' ∨ x = 'X') ∧ (d.isDigit ∨ ('a' ≤ d.toLower ∧ d.toLower ≤ 'f')) then
      let isDigit (c : Char) : Bool := c.isDigit || ('a' ≤ c.toLower && c.toLower ≤ 'f')
      let ds := (d :: r).takeWhile isDigit
      some (digitsValue 16 ds, (d :: r).drop ds.length)
    else
      let ds := cs.takeWhile fun c => '0' ≤ c && c ≤ '7'
      some (digitsValue 8 ds, cs.drop ds.length)
  | '0' :: r =>
    let ds := r.takeWhile fun c => '0' ≤ c && c ≤ '7'
    some (digitsValue 8 ds, r.drop ds.length)
  | cs =>
    let ds := cs.takeWhile Char.isDigit
    if ds.isEmpty then none else some (digitsValue 10 ds, cs.drop ds.length)

def isBlank (c : Char) : Bool := c == ' ' || (0x09 ≤ c.toNat && c.toNat ≤ 0x0D)

def leadingInteger? (cs : List Char) : Option (Int × List Char) :=
  match cs.dropWhile isBlank with
  | '-' :: r => (natural? r).map fun (n, t) => (-(n : Int), t)
  | '+' :: r => (natural? r).map fun (n, t) => ((n : Int), t)
  | r => (natural? r).map fun (n, t) => ((n : Int), t)

def valueOf (text : Octets) : Except Fault Int :=
  if text.all isBlank then .ok 0
  else match leadingInteger? text with
    | some (n, r) => if r.all isBlank then .ok (wrap n) else .error (.illegalNumber text)
    | none => .error (.illegalNumber text)

def assignable (o : Operator) : List Char → Token × List Char
  | '=' :: r => (.assign (some o), r)
  | r => (.operator o, r)

def symbol : List Char → Token × List Char
  | '(' :: r => (.opening, r)
  | ')' :: r => (.closing, r)
  | '?' :: r => (.question, r)
  | ':' :: r => (.colon, r)
  | '~' :: r => (.complement, r)
  | '=' :: '=' :: r => (.operator .equal, r)
  | '=' :: r => (.assign none, r)
  | '!' :: '=' :: r => (.operator .unequal, r)
  | '!' :: r => (.not, r)
  | '&' :: '&' :: r => (.and, r)
  | '&' :: r => assignable .both r
  | '|' :: '|' :: r => (.or, r)
  | '|' :: r => assignable .either r
  | '^' :: r => assignable .differ r
  | '*' :: r => assignable .times r
  | '/' :: r => assignable .dividedBy r
  | '%' :: r => assignable .rest r
  | '+' :: r => assignable .plus r
  | '-' :: r => assignable .minus r
  | '<' :: '<' :: r => assignable .left r
  | '<' :: '=' :: r => (.operator .lessEqual, r)
  | '<' :: r => (.operator .less, r)
  | '>' :: '>' :: r => assignable .right r
  | '>' :: '=' :: r => (.operator .greaterEqual, r)
  | '>' :: r => (.operator .greater, r)
  | r => (.unknown, r.tail)

def tokensFrom : (fuel : Nat) → List Char → List Token
  | 0, _ => []
  | fuel + 1, cs =>
    match cs.dropWhile isBlank with
    | [] => []
    | c :: r =>
      if c.isDigit then
        match natural? (c :: r) with
        | some (n, t) => .number (wrap n) :: tokensFrom fuel t
        | none => []
      else if isNameStart c then
        .name (c :: r.takeWhile isNameChar) :: tokensFrom fuel (r.dropWhile isNameChar)
      else
        let (t, rest) := symbol (c :: r)
        t :: tokensFrom fuel rest

def tokens (text : Octets) : List Token :=
  tokensFrom (text.length + 1) text

abbrev Read := List Token → Except Fault (Expression × List Token)

mutual

def primary : (fuel : Nat) → Read
  | 0, _ => .error (.malformed "expecting primary")
  | fuel + 1, ts =>
    match ts with
    | .opening :: r => do
      let (e, r) ← assignment fuel r
      match r with
      | .closing :: r => .ok (e, r)
      | _ => .error (.malformed "expecting ')'")
    | .number n :: r => .ok (.number n, r)
    | .name text :: r => .ok (.name text, r)
    | .operator .plus :: r => primary fuel r
    | .operator .minus :: r => do
      let (e, r) ← primary fuel r
      .ok (.negate e, r)
    | .not :: r => do
      let (e, r) ← primary fuel r
      .ok (.not e, r)
    | .complement :: r => do
      let (e, r) ← primary fuel r
      .ok (.complement e, r)
    | _ => .error (.malformed "expecting primary")

def operations : (fuel : Nat) → (a : Expression) → (limit : Nat) → Read
  | 0, a, _, ts => .ok (a, ts)
  | fuel + 1, a, limit, ts =>
    match ts with
    | .operator o :: r =>
      if o.rank < limit then do
        let (b, r) ← primary fuel r
        let (b, r) ← operations fuel b o.rank r
        operations fuel (.binary o a b) limit r
      else .ok (a, ts)
    | _ => .ok (a, ts)

def conjunction : (fuel : Nat) → Read
  | 0, _ => .error (.malformed "expecting primary")
  | fuel + 1, ts => do
    let (a, r) ← primary fuel ts
    let (a, r) ← operations fuel a 8 r
    match r with
    | .and :: r =>
      let (b, r) ← conjunction fuel r
      .ok (.and a b, r)
    | r => .ok (a, r)

def disjunction : (fuel : Nat) → Read
  | 0, _ => .error (.malformed "expecting primary")
  | fuel + 1, ts => do
    let (a, r) ← conjunction fuel ts
    match r with
    | .or :: r =>
      let (b, r) ← disjunction fuel r
      .ok (.or a b, r)
    | r => .ok (a, r)

def conditional : (fuel : Nat) → Read
  | 0, _ => .error (.malformed "expecting primary")
  | fuel + 1, ts => do
    let (a, r) ← disjunction fuel ts
    match r with
    | .question :: r =>
      let (b, r) ← assignment fuel r
      match r with
      | .colon :: r =>
        let (c, r) ← conditional fuel r
        .ok (.choose a b c, r)
      | _ => .error (.malformed "expecting ':'")
    | r => .ok (a, r)

def assignment : (fuel : Nat) → Read
  | 0, _ => .error (.malformed "expecting primary")
  | fuel + 1, ts =>
    match ts with
    | .name text :: .assign o :: r => do
      let (e, r) ← assignment fuel r
      .ok (.assign text o e, r)
    | ts => conditional fuel ts

end

def parse (text : Octets) : Except Fault Expression := do
  let ts := tokens text
  let (e, r) ← assignment (6 * ts.length + 10) ts
  if r.isEmpty then .ok e else .error (.malformed "expecting EOF")

def ofBool (b : Bool) : Int := if b then 1 else 0

def bits (n : Int) : Nat := (n % modulus).toNat

def Operator.apply (o : Operator) (a b : Int) : Except Fault Int :=
  match o with
  | times => .ok (wrap (a * b))
  | dividedBy => if b = 0 then .error (.malformed "division by zero") else .ok (wrap (Int.tdiv a b))
  | rest => if b = 0 then .error (.malformed "division by zero") else .ok (Int.tmod a b)
  | plus => .ok (wrap (a + b))
  | minus => .ok (wrap (a - b))
  | left => .ok (wrap (a * (Nat.pow 2 (bits b % 64) : Nat)))
  | right => .ok (Int.fdiv a (Nat.pow 2 (bits b % 64) : Nat))
  | less => .ok (ofBool (a < b))
  | lessEqual => .ok (ofBool (a ≤ b))
  | greater => .ok (ofBool (b < a))
  | greaterEqual => .ok (ofBool (b ≤ a))
  | equal => .ok (ofBool (a == b))
  | unequal => .ok (ofBool (a != b))
  | both => .ok (wrap (Nat.land (bits a) (bits b)))
  | differ => .ok (wrap (Nat.xor (bits a) (bits b)))
  | either => .ok (wrap (Nat.lor (bits a) (bits b)))

abbrev Assigned := List (Octets × Int)

def evaluate (lookup : Octets → Octets) : Expression → StateT Assigned (Except Fault) Int
  | .number n => return n
  | .name text => value text
  | .negate e => return wrap (-(← evaluate lookup e))
  | .not e => return ofBool ((← evaluate lookup e) == 0)
  | .complement e => return -(← evaluate lookup e) - 1
  | .binary o a b => do
    let a ← evaluate lookup a
    let b ← evaluate lookup b
    o.apply a b
  | .and a b => do
    if (← evaluate lookup a) = 0 then return 0
    return ofBool ((← evaluate lookup b) != 0)
  | .or a b => do
    if (← evaluate lookup a) ≠ 0 then return 1
    return ofBool ((← evaluate lookup b) != 0)
  | .choose condition yes no => do
    if (← evaluate lookup condition) ≠ 0 then evaluate lookup yes else evaluate lookup no
  | .assign name o e => do
    let n ← evaluate lookup e
    let n ← match o with
      | none => pure n
      | some o => do o.apply (← value name) n
    modify fun assigned => (name, n) :: assigned
    return n
where
  value (name : Octets) : StateT Assigned (Except Fault) Int := do
    match (← get).find? fun a => a.1 == name with
    | some (_, n) => return n
    | none => valueOf (lookup name)

def run (lookup : Octets → Octets) (text : Octets) : Except Fault (Int × Assigned) := do
  let e ← parse text
  let (n, assigned) ← (evaluate lookup e).run []
  return (n, assigned.reverse)

def Fault.message (text : Octets) : Fault → Octets
  | malformed reason =>
    Octets.ofText ("arithmetic expression: " ++ reason ++ ": \"") ++ text ++ ['"']
  | illegalNumber value => Octets.ofText "Illegal number: " ++ value

end Arithmetic

end SymbolDocs.Script
