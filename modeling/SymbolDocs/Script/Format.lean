import SymbolDocs.Number.Binary64
import SymbolDocs.Script.Arithmetic

namespace SymbolDocs.Script

open Text (Octets)

def isOctalDigit (c : Char) : Bool := '0' ≤ c && c ≤ '7'

def escape (cs : List Char) : Char × List Char :=
  match cs with
  | [] => ('\\', [])
  | c :: r =>
    match c with
    | '\\' => ('\\', r)
    | 'a' => ('\x07', r)
    | 'b' => ('\x08', r)
    | 'e' => ('\x1b', r)
    | 'f' => ('\x0c', r)
    | 'n' => ('\n', r)
    | 'r' => ('\r', r)
    | 't' => ('\t', r)
    | 'v' => ('\x0b', r)
    | _ =>
      if isOctalDigit c then
        let ds := (cs.take 3).takeWhile isOctalDigit
        (Char.ofNat (Arithmetic.digitsValue 8 ds % 256), cs.drop ds.length)
      else ('\\', cs)

/-- A text with its escapes carried out, and whether one of them ended it. A zero may stand before
octal digits. -/
def unescape : (fuel : Nat) → List Char → Octets × Bool
  | 0, _ => ([], false)
  | _ + 1, [] => ([], false)
  | fuel + 1, c :: r =>
    let goOn (d : Char) (rest : List Char) : Octets × Bool :=
      let (s, isCut) := unescape fuel rest
      (d :: s, isCut)
    if c ≠ '\\' then goOn c r
    else match r with
      | 'c' :: _ => ([], true)
      | '0' :: d :: r' =>
        if isOctalDigit d then
          let (e, rest) := escape (d :: r')
          goOn e rest
        else
          let (e, rest) := escape r
          goOn e rest
      | r =>
        let (e, rest) := escape r
        goOn e rest

namespace Format

structure Spec where
  isLeft : Bool := false
  hasSign : Bool := false
  hasSpace : Bool := false
  isAlternate : Bool := false
  hasZeros : Bool := false
  width : Nat := 0
  precision : Option Nat := none
  kind : Char := 's'
  deriving Repr

def Spec.pad (s : Spec) (text : Octets) : Octets :=
  let fill := List.replicate (s.width - text.length) ' '
  if s.isLeft then text ++ fill else fill ++ text

def Spec.padNumber (s : Spec) (allowsZeros : Bool) (sign digits : Octets) : Octets :=
  if s.hasZeros && allowsZeros && !s.isLeft then
    sign ++ List.replicate (s.width - sign.length - digits.length) '0' ++ digits
  else s.pad (sign ++ digits)

def Spec.sign (s : Spec) (isNegative : Bool) : Octets :=
  if isNegative then ['-'] else if s.hasSign then ['+'] else if s.hasSpace then [' '] else []

def Spec.digits (s : Spec) (ds : Octets) : Octets :=
  match s.precision with
  | none => ds
  | some p =>
    let ds := if ds = ['0'] ∧ p = 0 then [] else ds
    List.replicate (p - ds.length) '0' ++ ds

def Spec.text (s : Spec) (t : Octets) : Octets :=
  s.pad (match s.precision with
    | some p => t.take p
    | none => t)

def Spec.integer (s : Spec) (n : Int) : Octets :=
  s.padNumber s.precision.isNone (s.sign (n < 0)) (s.digits (Nat.toDigits 10 n.natAbs))

def Spec.unsigned (s : Spec) (n : Int) : Octets :=
  let n := Arithmetic.bits n
  let (base, mark) : Nat × Octets :=
    if s.kind = 'o' then (8, if s.isAlternate then ['0'] else [])
    else if s.kind = 'x' then (16, if s.isAlternate && n != 0 then ['0', 'x'] else [])
    else if s.kind = 'X' then (16, if s.isAlternate && n != 0 then ['0', 'X'] else [])
    else (10, [])
  let ds := Nat.toDigits base n
  let ds := if s.kind = 'X' then ds.map Char.toUpper else ds
  s.padNumber s.precision.isNone mark (s.digits ds)

def fixed (r : Binary64.Ratio) (places : Nat) (keepsPoint : Bool) : Octets :=
  let n := Binary64.Ratio.round ⟨r.num * Nat.pow 10 places, r.den⟩
  let ds := Nat.toDigits 10 n
  let ds := List.replicate (places + 1 - ds.length) '0' ++ ds
  let whole := ds.take (ds.length - places)
  if places = 0 then whole ++ (if keepsPoint then ['.'] else [])
  else whole ++ '.' :: ds.drop (ds.length - places)

def scientific (r : Binary64.Ratio) (places : Nat) : List Char × Int :=
  if r.num = 0 then (List.replicate (places + 1) '0', 0)
  else
    let top := Binary64.leadingPlace r 700 310
    let scale := Binary64.Ratio.scaled 1 10 ((places : Int) - top)
    let n := Binary64.Ratio.round ⟨r.num * scale.num, r.den * scale.den⟩
    let ds := Nat.toDigits 10 n
    if ds.length > places + 1 then (ds.take (places + 1), top + 1) else (ds, top)

def exponentText (e : Int) : Octets :=
  let ds := Nat.toDigits 10 e.natAbs
  let ds := List.replicate (2 - ds.length) '0' ++ ds
  'e' :: (if e < 0 then '-' else '+') :: ds

def withoutZeros (text : Octets) : Octets :=
  if text.contains '.' then
    let t := (text.reverse.dropWhile (· == '0')).reverse
    if t.getLast? = some '.' then t.dropLast else t
  else text

def Spec.magnitude (s : Spec) (r : Binary64.Ratio) : Octets :=
  let kind := s.kind.toLower
  let places := s.precision.getD 6
  let withExponent (places : Nat) (strips : Bool) : Octets :=
    let (ds, e) := scientific r places
    let body := ds.take 1 ++ (if places = 0 then [] else '.' :: ds.drop 1)
    (if strips then withoutZeros body else body) ++ exponentText e
  if kind = 'f' then fixed r places s.isAlternate
  else if kind = 'e' then withExponent places false
  else
    let p := max places 1
    let (_, e) := scientific r (p - 1)
    if -4 ≤ e ∧ e < p then
      let t := fixed r ((p : Int) - 1 - e).toNat s.isAlternate
      if s.isAlternate then t else withoutZeros t
    else withExponent (p - 1) !s.isAlternate

def Spec.real (s : Spec) (x : Binary64) : Octets :=
  let capital (t : Octets) : Octets := if s.kind.isUpper then t.map Char.toUpper else t
  match x with
  | .nan => s.pad (capital "nan".toList)
  | .infinite isNegative => s.pad (s.sign isNegative ++ capital "inf".toList)
  | .finite isNegative mantissa exponent =>
    s.padNumber true (s.sign isNegative)
      (capital (s.magnitude (Binary64.Ratio.scaled mantissa 2 exponent)))

def real? (cs : List Char) : Option (Binary64 × List Char) :=
  let cs := cs.dropWhile Arithmetic.isBlank
  let (isNegative, cs) := match cs with
    | '-' :: r => (true, r)
    | '+' :: r => (false, r)
    | r => (false, r)
  let whole := cs.takeWhile Char.isDigit
  let r := cs.drop whole.length
  let (part, r) := match r with
    | '.' :: t => (t.takeWhile Char.isDigit, t.dropWhile Char.isDigit)
    | r => ([], r)
  if whole.isEmpty && part.isEmpty then none
  else
    let (exponent, r) : Int × List Char := match r with
      | e :: t =>
        let (isDown, ds) := match t with
          | '-' :: u => (true, u)
          | '+' :: u => (false, u)
          | u => (false, u)
        let digits := ds.takeWhile Char.isDigit
        if (e = 'e' ∨ e = 'E') ∧ !digits.isEmpty then
          let n : Int := Arithmetic.digitsValue 10 digits
          (if isDown then -n else n, ds.drop digits.length)
        else (0, r)
      | [] => (0, r)
    let n := Arithmetic.digitsValue 10 (whole ++ part)
    some (Binary64.ofDecimal isNegative n (exponent - part.length), r)

structure State where
  output : List Octets := []
  arguments : List Octets
  warnings : List Octets := []
  isEnded : Bool := false
  fault : Option Octets := none

namespace State

def put (s : State) (text : Octets) : State :=
  { s with output := text :: s.output }

def next (s : State) : Option Octets × State :=
  match s.arguments with
  | [] => (none, s)
  | a :: rest => (some a, { s with arguments := rest })

def warn (s : State) (argument : Octets) (reason : String) : State :=
  { s with warnings := s.warnings ++ [argument ++ Octets.ofText (": " ++ reason)] }

def check (s : State) (argument rest : Octets) : State :=
  if rest.isEmpty then s
  else if rest.length = argument.length then s.warn argument "expected numeric value"
  else s.warn argument "not completely converted"

/-- The next argument as a whole number. Behind a quote the code of a character counts. -/
def nextInteger (s : State) : Int × State :=
  match s.next with
  | (none, s) => (0, s)
  | (some a, s) => match a with
    | '"' :: r | '\'' :: r => (((r.head?.map Char.toNat).getD 0 : Nat), s)
    | a => match Arithmetic.leadingInteger? a with
      | none => (0, s.check a a)
      | some (n, rest) => (n, s.check a rest)

def nextReal (s : State) : Binary64 × State :=
  let zero := Binary64.finite false 0 Binary64.minExponent
  match s.next with
  | (none, s) => (zero, s)
  | (some a, s) => match a with
    | '"' :: r | '\'' :: r => (Binary64.ofDecimal false ((r.head?.map Char.toNat).getD 0) 0, s)
    | a => match real? a with
      | none => (zero, s.check a a)
      | some (x, rest) => (x, s.check a rest)

end State

def flags (s : Spec) : List Char → Spec × List Char
  | '-' :: r => flags { s with isLeft := true } r
  | '+' :: r => flags { s with hasSign := true } r
  | ' ' :: r => flags { s with hasSpace := true } r
  | '#' :: r => flags { s with isAlternate := true } r
  | '0' :: r => flags { s with hasZeros := true } r
  | r => (s, r)

def count (state : State) : List Char → Option Int × State × List Char
  | '*' :: r =>
    let (n, state) := state.nextInteger
    (some n, state, r)
  | cs =>
    let ds := cs.takeWhile Char.isDigit
    (if ds.isEmpty then none else some (Arithmetic.digitsValue 10 ds), state, cs.drop ds.length)

def directive (state : State) (cs : List Char) : State × List Char :=
  let (spec, r) := flags {} cs
  let (width, state, r) := count state r
  let spec := match width with
    | none => spec
    | some n => { spec with width := n.natAbs, isLeft := spec.isLeft || n < 0 }
  let (spec, state, r) : Spec × State × List Char := match r with
    | '.' :: r =>
      let (precision, state, r) := count state r
      match precision with
      | none => ({ spec with precision := some 0 }, state, r)
      | some n => ({ spec with precision := if n < 0 then none else some n.toNat }, state, r)
    | r => (spec, state, r)
  match r with
  | [] => ({ state with fault := some (Octets.ofText "missing format character") }, [])
  | kind :: rest =>
    let spec := { spec with kind }
    if kind = 's' then
      let (a, state) := state.next
      (state.put (spec.text (a.getD [])), rest)
    else if kind = 'b' then
      let (a, state) := state.next
      let (text, isCut) := unescape ((a.getD []).length + 1) (a.getD [])
      ({ state.put (spec.text text) with isEnded := isCut }, rest)
    else if kind = 'c' then
      let (a, state) := state.next
      let c := ((a.getD []).head?).getD (Char.ofNat 0)
      (state.put (spec.pad [c]), rest)
    else if kind = 'd' ∨ kind = 'i' then
      let (n, state) := state.nextInteger
      (state.put (spec.integer (Arithmetic.wrap n)), rest)
    else if kind = 'o' ∨ kind = 'u' ∨ kind = 'x' ∨ kind = 'X' then
      let (n, state) := state.nextInteger
      (state.put (spec.unsigned n), rest)
    else if "eEfFgG".toList.contains kind then
      let (x, state) := state.nextReal
      (state.put (spec.real x), rest)
    else
      let shown := '%' :: cs.take (cs.length - rest.length)
      ({ state with fault := some (shown ++ Octets.ofText ": invalid directive") }, [])

def pass : (fuel : Nat) → State → List Char → State
  | 0, state, _ => state
  | _ + 1, state, [] => state
  | fuel + 1, state, c :: r =>
    if state.isEnded || state.fault.isSome then state
    else if c = '\\' then
      let (e, rest) := escape r
      pass fuel (state.put [e]) rest
    else if c = '%' then
      match r with
      | '%' :: rest => pass fuel (state.put ['%']) rest
      | r =>
        let (state, rest) := directive state r
        pass fuel state rest
    else pass fuel (state.put [c]) r

def passes (format : List Char) : (fuel : Nat) → State → State
  | 0, state => state
  | fuel + 1, state =>
    let after := pass (format.length + 1) state format
    let isDone := after.arguments.isEmpty || after.arguments.length == state.arguments.length
    if isDone || after.isEnded || after.fault.isSome then after else passes format fuel after

def run (format : Octets) (arguments : List Octets) : State :=
  passes format (arguments.length + 1) { arguments }

def State.text (s : State) : Octets := s.output.reverse.flatten

end Format

end SymbolDocs.Script
