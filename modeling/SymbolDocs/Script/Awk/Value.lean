import SymbolDocs.Script.Awk.Syntax
import SymbolDocs.Script.Condition
import SymbolDocs.Script.Format
import SymbolDocs.Script.Regex.Parse

namespace SymbolDocs.Script.Awk

open Text (Octets)

inductive Cell where
  | unset
  | number (x : Binary64)
  | text (t : Octets)
  | input (t : Octets)
  deriving DecidableEq, Repr

def leadingNumber (t : Octets) : Binary64 :=
  match Format.real? t with
  | some (x, _) => x
  | none => .zero

def looksNumeric (t : Octets) : Bool :=
  match Format.real? t with
  | some (_, rest) => rest.all Script.Arithmetic.isBlank
  | none => false

def numberText (format : Octets) (x : Binary64) : Octets :=
  match x.isWhole, x.whole? with
  | true, some n =>
    if n.natAbs < 0x10000000000000000 then (toString n).toList
    else realText format x
  | _, _ => realText format x
where
  realText (format : Octets) (x : Binary64) : Octets :=
    let (spec, r) := Format.flags {} (format.drop 1)
    let width := r.takeWhile Char.isDigit
    let spec := { spec with width := Script.Arithmetic.digitsValue 10 width }
    match r.drop width.length with
    | '.' :: r =>
      let ds := r.takeWhile Char.isDigit
      let precision := some (Script.Arithmetic.digitsValue 10 ds)
      let kind := ((r.drop ds.length).head?).getD 'g'
      Format.Spec.real { spec with precision, kind } x
    | r => Format.Spec.real { spec with kind := r.head?.getD 'g' } x

def usualFormat : Octets := "%.6g".toList

namespace Cell

def toNumber : Cell → Binary64
  | unset => .zero
  | number x => x
  | text t | input t => leadingNumber t

def toText (format : Octets) : Cell → Octets
  | unset => []
  | number x => numberText format x
  | text t | input t => t

def isNumeric : Cell → Bool
  | unset | number _ => true
  | text _ => false
  | input t => looksNumeric t

def isTrue : Cell → Bool
  | unset => false
  | number x => !x.isZero
  | text t => !t.isEmpty
  | input t => if looksNumeric t then !(leadingNumber t).isZero else !t.isEmpty

def ofBool (b : Bool) : Cell := .number (.ofInt (if b then 1 else 0))

def ofNat (n : Nat) : Cell := .number (.ofInt n)

end Cell

def Arithmetic.apply (op : Arithmetic) (a b : Binary64) : Binary64 :=
  match op with
  | .add => a.add b
  | .sub => a.sub b
  | .mul => a.mul b
  | .div => a.div b
  | .mod => a.rem b
  | .pow => a.pow b

def Relation.holds (r : Relation) (format : Octets) (a b : Cell) : Bool :=
  let (isLess, isSame) : Bool × Bool :=
    if a.isNumeric && b.isNumeric then
      (a.toNumber.isLess b.toNumber, a.toNumber.isSame b.toNumber)
    else (Condition.isBefore (a.toText format) (b.toText format),
      a.toText format == b.toText format)
  match r with
  | .less => isLess
  | .lessOrSame => isLess || isSame
  | .same => isSame
  | .different => !isSame
  | .more => !isLess && !isSame
  | .moreOrSame => !isLess

def directiveCount (args : List Cell) : List Char → Option Int × List Cell × List Char
  | '*' :: r => match args with
    | a :: rest => (a.toNumber.whole?, rest, r)
    | [] => (none, [], r)
  | cs =>
    let ds := cs.takeWhile Char.isDigit
    (if ds.isEmpty then none else some (Script.Arithmetic.digitsValue 10 ds), args,
      cs.drop ds.length)

/-- What a directive behind its percent sign makes of the next value; nothing if there is none. -/
def directive (args : List Cell) (cs : List Char) : Option (Octets × List Cell × List Char) :=
  let (spec, r) := Format.flags {} cs
  let (width, args, r) := directiveCount args r
  let spec := match width with
    | none => spec
    | some n => { spec with width := n.natAbs, isLeft := spec.isLeft || n < 0 }
  let (spec, args, r) : Format.Spec × List Cell × List Char := match r with
    | '.' :: r =>
      let (precision, args, r) := directiveCount args r
      ({ spec with precision := some (precision.getD 0).toNat }, args, r)
    | r => (spec, args, r)
  match r, args with
  | [], args => some ('%' :: cs, args, [])
  | '%' :: rest, args => some (['%'], args, rest)
  | _, [] => none
  | kind :: rest, a :: args =>
    let spec := { spec with kind }
    let x := a.toNumber
    let made := match kind with
      | 'd' | 'i' => match x.whole? with
        | some n => spec.integer n
        | none => spec.pad (Octets.ofText x.text)
      | 'o' | 'x' | 'X' | 'u' => match x.whole? with
        | some n => spec.unsigned n
        | none => spec.pad (Octets.ofText x.text)
      | 'c' =>
        let c := match a with
          | .number x => [Char.ofNat ((x.whole?.getD 0) % 256).toNat]
          | a => (a.toText usualFormat).take 1
        spec.pad c
      | 's' => spec.text (a.toText usualFormat)
      | _ =>
        if "eEfFgG".toList.contains kind then spec.real x
        else '%' :: cs.take (cs.length - rest.length)
    some (made, args, rest)

def formatted : (fuel : Nat) → List Char → List Cell → Option Octets
  | 0, _, _ => some []
  | _ + 1, [], _ => some []
  | fuel + 1, '%' :: r, args => do
    let (made, args, rest) ← directive args r
    return made ++ (← formatted fuel rest args)
  | fuel + 1, c :: r, args => (formatted fuel r args).map (c :: ·)

def regexOf (source : Octets) : Except String Regex :=
  Regex.parse { isExtended := true, hasEscapes := true } source

def blankFields : (fuel : Nat) → List Char → List Octets
  | 0, _ => []
  | fuel + 1, cs =>
    let isGap (c : Char) : Bool := c == ' ' || c == '\t' || c == '\n'
    match cs.dropWhile isGap with
    | [] => []
    | r =>
      let word := r.takeWhile (!isGap ·)
      word :: blankFields fuel (r.drop word.length)

def between (here : Spot) : List (Spot × Spot) → List Octets
  | [] => [here.after]
  | (a, b) :: rest => here.textTo a :: between b rest

/-- The fields of a text. A blank as separator stands for any blanks; another single character
stands for itself. -/
def fieldsOf (separator text : Octets) : List Octets :=
  if text.isEmpty then []
  else match separator with
    | [' '] => blankFields (text.length + 1) text
    | [] => text.map fun c => [c]
    | [c] => Text.splitOn c text
    | source => match regexOf source with
      | .error _ => [text]
      | .ok r =>
        let found := (r.allIn false text).filter fun (a, b) => a.after.length != b.after.length
        between (.ofText text) found

def replacement (found : Octets) : List Char → Octets
  | '\\' :: '&' :: r => '&' :: replacement found r
  | '\\' :: '\\' :: r => '\\' :: replacement found r
  | '&' :: r => found ++ replacement found r
  | c :: r => c :: replacement found r
  | [] => []

def replacedIn (new : Octets) (here : Spot) : List (Spot × Spot) → Octets
  | [] => here.after
  | (a, b) :: rest =>
    here.textTo a ++ replacement (a.textTo b) new ++ replacedIn new b rest

end SymbolDocs.Script.Awk
