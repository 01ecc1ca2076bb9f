import SymbolDocs.Script.Regex.Basic
import SymbolDocs.Script.Arithmetic

namespace SymbolDocs.Script.Regex

open Text (Octets)

structure Dialect where
  isExtended : Bool
  hasEscapes : Bool := false
  isStrict : Bool := false

abbrev Fault := String

structure Rest where
  chars : List Char
  groups : Nat

def unmatchedBracket : Fault := "Unmatched [, [^, [:, [., or [="

def nothingToRepeat : Fault := "Invalid preceding regular expression"

def bareClass : Fault := "character class syntax is [[:space:]], not [:space:]"

def escapeChar? (n : Dialect) (c : Char) : Option Char :=
  if !n.hasEscapes then none
  else match c with
    | 'n' => some '\n'
    | 't' => some '\t'
    | 'f' => some '\x0c'
    | 'v' => some '\x0b'
    | 'a' => some '\x07'
    | 'r' => some '\r'
    | _ => none

def setItems (n : Dialect) : (fuel : Nat) → (isFirst : Bool) → List Char →
    Except Fault (List SetItem × List Char)
  | 0, _, _ => .error unmatchedBracket
  | _ + 1, _, [] => .error unmatchedBracket
  | fuel + 1, isFirst, c :: r =>
    if c = ']' ∧ !isFirst then .ok ([], r)
    else
      let goOn (item : SetItem) (rest : List Char) : Except Fault (List SetItem × List Char) := do
        let (items, t) ← setItems n fuel false rest
        .ok (item :: items, t)
      let (low, r) : Char × List Char := match c, r with
        | '\\', e :: r' => match escapeChar? n e with
          | some d => (d, r')
          | none => (c, r)
        | '[', '.' :: e :: '.' :: ']' :: r' => (e, r')
        | '[', '=' :: e :: '=' :: ']' :: r' => (e, r')
        | _, _ => (c, r)
      match c, r with
      | '[', ':' :: r' => match className? r' with
        | some (name, rest) =>
          if (charClass? name).isSome then goOn (.named name) rest
          else .error "Invalid character class name"
        | none => .error unmatchedBracket
      | _, '-' :: high :: rest =>
        if high = ']' then goOn (.range low low) r
        else if high < low then .error "Invalid range end"
        else goOn (.range low high) rest
      | _, _ => goOn (.range low low) r

def bracket (n : Dialect) (cs : List Char) : Except Fault (CharSet × List Char) :=
  let (isNegated, body) := match cs with
    | '^' :: r => (true, r)
    | r => (false, r)
  if cs.isEmpty then .error "Invalid regular expression"
  else do
    let (items, r) ← setItems n (body.length + 1) true body
    let inside := body.take (body.length - r.length - 1)
    if 1 < inside.length && inside.head? == some ':' && inside.getLast? == some ':' then
      .error bareClass
    else .ok (.among isNegated items, r)

def interval? (n : Dialect) (cs : List Char) : Option (Nat × Option Nat × List Char) :=
  let first := cs.takeWhile Char.isDigit
  let r := cs.drop first.length
  let least := Arithmetic.digitsValue 10 first
  let close : List Char → Option (List Char)
    | '\\' :: '\x7d' :: r => if n.isExtended then none else some r
    | '\x7d' :: r => if n.isExtended then some r else none
    | _ => none
  match r with
  | ',' :: r =>
    let second := r.takeWhile Char.isDigit
    let most := if second.isEmpty then none else some (Arithmetic.digitsValue 10 second)
    (close (r.drop second.length)).map fun rest => (least, most, rest)
  | r => if first.isEmpty then none else (close r).map fun rest => (least, some least, rest)

def repetitions (n : Dialect) : (fuel : Nat) → Regex → List Char → Except Fault (Regex × List Char)
  | 0, r, cs => .ok (r, cs)
  | fuel + 1, r, cs =>
    let braces (rest : List Char) : Except Fault (Regex × List Char) :=
      match interval? n rest with
      | some (least, most, rest) =>
        if (most.map fun m => decide (m < least)).getD false then
          .error "Invalid content of \\\x7b\\\x7d"
        else repetitions n fuel (.repeated r least most) rest
      | none =>
        if n.isExtended && !n.isStrict then .ok (r, cs)
        else if rest.contains '\x7d' then .error "Invalid content of \\\x7b\\\x7d"
        else .error "Unmatched \\\x7b"
    match n.isExtended, cs with
    | false, '*' :: '*' :: rest =>
      if n.isStrict then .error nothingToRepeat
      else repetitions n fuel (.repeated r 0 none) ('*' :: rest)
    | _, '*' :: rest => repetitions n fuel (.repeated r 0 none) rest
    | true, '+' :: rest | false, '\\' :: '+' :: rest =>
      repetitions n fuel (.repeated r 1 none) rest
    | true, '?' :: rest | false, '\\' :: '?' :: rest =>
      repetitions n fuel (.repeated r 0 (some 1)) rest
    | true, '\x7b' :: rest => braces rest
    | false, '\\' :: '\x7b' :: rest => braces rest
    | _, cs => .ok (r, cs)

def special? : Char → Option Regex
  | 'w' => some (.one (.among false [.named "alnum", .range '_' '_']))
  | 'W' => some (.one (.among true [.named "alnum", .range '_' '_']))
  | 's' => some (.one (.among false [.named "space"]))
  | 'S' => some (.one (.among true [.named "space"]))
  | 'b' => some (.anchor .wordEdge)
  | 'B' => some (.anchor .noWordEdge)
  | '<' => some (.anchor .wordStart)
  | '>' => some (.anchor .wordEnd)
  | '\'' => some (.anchor .finish)
  | c => if c = Char.ofNat 96 then some (.anchor .start) else none

def endsBranch (n : Dialect) (depth : Nat) : List Char → Bool
  | [] => true
  | '|' :: _ => n.isExtended
  | ')' :: _ => n.isExtended && (depth != 0 || n.isStrict)
  | '\\' :: '|' :: _ => !n.isExtended
  | '\\' :: ')' :: _ => !n.isExtended
  | _ => false

mutual

def branches (n : Dialect) : (fuel : Nat) → (depth : Nat) → Rest → Except Fault (Regex × Rest)
  | 0, _, _ => .error "Regular expression too big"
  | fuel + 1, depth, s => do
    let (first, s) ← branch n fuel depth true s
    match n.isExtended, s.chars with
    | true, '|' :: r | false, '\\' :: '|' :: r =>
      let (rest, s) ← branches n fuel depth { s with chars := r }
      .ok (.either first rest, s)
    | _, _ => .ok (first, s)

def branch (n : Dialect) : (fuel : Nat) → (depth : Nat) → (isFirst : Bool) → Rest →
    Except Fault (Regex × Rest)
  | 0, _, _, _ => .error "Regular expression too big"
  | fuel + 1, depth, isFirst, s =>
    if endsBranch n depth s.chars then .ok (.empty, s)
    else do
      let (item, s) ← atom n fuel depth isFirst s
      let isAnchor := match item with
        | .anchor .start => !n.isExtended
        | _ => false
      let (item, r) ← if isAnchor then .ok (item, s.chars)
        else repetitions n (s.chars.length + 1) item s.chars
      let (rest, s) ← branch n fuel depth false { s with chars := r }
      .ok (match rest with
        | .empty => item
        | rest => .seq item rest, s)

def atom (n : Dialect) : (fuel : Nat) → (depth : Nat) → (isFirst : Bool) → Rest →
    Except Fault (Regex × Rest)
  | 0, _, _, _ => .error "Regular expression too big"
  | fuel + 1, depth, isFirst, s =>
    let done (r : Regex) (rest : List Char) : Except Fault (Regex × Rest) :=
      .ok (r, { s with chars := rest })
    let literal (c : Char) (rest : List Char) : Except Fault (Regex × Rest) :=
      done (.one (.exactly c)) rest
    -- what would repeat something has nothing before it
    let idle (r : List Char) : Except Fault (Regex × Rest) :=
      if n.isStrict then .error nothingToRepeat else done .empty r
    let group (rest : List Char) : Except Fault (Regex × Rest) := do
      let number := s.groups + 1
      let (inner, t) ← branches n fuel (depth + 1) ⟨rest, number⟩
      match n.isExtended, t.chars with
      | true, ')' :: r | false, '\\' :: ')' :: r =>
        .ok (.group number inner, { t with chars := r })
      | _, _ => .error "Unmatched ( or \\("
    match s.chars with
    | [] => done .empty []
    | '[' :: r => do
      let (set, rest) ← bracket n r
      done (.one set) rest
    | '.' :: r => done (.one .any) r
    | '\\' :: [] => .error "Trailing backslash"
    | '\\' :: c :: r =>
      if c = '(' ∧ !n.isExtended then group r
      else if c.isDigit ∧ c ≠ '0' then
        let number := c.toNat - '0'.toNat
        if number ≤ s.groups then done (.back number) r else .error "Invalid back reference"
      else if c = '\x7b' ∧ !n.isExtended ∧ n.isStrict then .error nothingToRepeat
      else match special? c, escapeChar? n c with
        | some item, _ => done item r
        | none, some d => literal d r
        | none, none => literal c r
    | '^' :: r => if n.isExtended || isFirst then done (.anchor .start) r else literal '^' r
    | '$' :: r =>
      if n.isExtended || endsBranch n depth r then done (.anchor .finish) r else literal '$' r
    | '(' :: r => if n.isExtended then group r else literal '(' r
    | '*' :: r => if n.isExtended then idle r else literal '*' r
    | '+' :: r => if n.isExtended then idle r else literal '+' r
    | '?' :: r => if n.isExtended then idle r else literal '?' r
    | '\x7b' :: r => match n.isExtended, interval? n r with
      | true, some (_, _, rest) => idle rest
      | _, _ => literal '\x7b' r
    | c :: r => literal c r

end

def parse (n : Dialect) (text : Octets) : Except Fault Regex := do
  let (r, rest) ← branches n (4 * text.length + 8) 0 ⟨text, 0⟩
  if rest.chars.isEmpty then .ok r else .error "Unmatched ) or \\)"

def literal (text : Octets) : Regex :=
  text.foldr (fun c r => .seq (.one (.exactly c)) r) .empty

def groupCount : Regex → Nat
  | .group number r => max number (groupCount r)
  | .seq a b | .either a b => max (groupCount a) (groupCount b)
  | .repeated r _ _ => groupCount r
  | _ => 0

end SymbolDocs.Script.Regex
