import SymbolDocs.Text.Digits
/-!
Floating-point numbers of 64 bits: the one nearest to a decimal number, and the shortest decimal
number that it is nearest to. All arithmetic is on natural numbers.
-/

namespace SymbolDocs

/-- A finite number is `mantissa * 2 ^ exponent`, up to its sign. -/
inductive Binary64 where
  | finite (negative : Bool) (mantissa : Nat) (exponent : Int)
  | infinite (negative : Bool)
  | nan
  deriving DecidableEq, Repr

namespace Binary64

def minExponent : Int := -1074

def maxExponent : Int := 971

def mantissaBits : Nat := 53

structure Ratio where
  num : Nat
  den : Nat

def Ratio.scaled (n base : Nat) (e : Int) : Ratio :=
  if 0 ≤ e then ⟨n * Nat.pow base e.toNat, 1⟩ else ⟨n, Nat.pow base (-e).toNat⟩

/-- The nearest natural number to a fraction; of two nearest ones the even one. -/
def Ratio.round (r : Ratio) : Nat :=
  let q := r.num / r.den
  let twice := 2 * (r.num % r.den)
  if twice < r.den then q
  else if r.den < twice then q + 1
  else if q % 2 = 0 then q else q + 1

def Ratio.shift (r : Ratio) (e : Int) : Ratio :=
  if 0 ≤ e then ⟨r.num, r.den * Nat.pow 2 e.toNat⟩ else ⟨r.num * Nat.pow 2 (-e).toNat, r.den⟩

def ofRatio (negative : Bool) (r : Ratio) : Binary64 :=
  if r.num = 0 then .finite negative 0 minExponent
  else
    -- `2 ^ (size - 1) < r < 2 ^ (size + 1)`
    let size : Int := (Nat.log2 r.num : Int) - Nat.log2 r.den
    let exact := r.shift (size - mantissaBits)
    let high := if exact.den * Nat.pow 2 mantissaBits ≤ exact.num then size + 1 else size
    let exponent := max (high - mantissaBits) minExponent
    let mantissa := (r.shift exponent).round
    let (mantissa, exponent) :=
      if mantissa = Nat.pow 2 mantissaBits then (Nat.pow 2 (mantissaBits - 1), exponent + 1)
      else (mantissa, exponent)
    if maxExponent < exponent then .infinite negative else .finite negative mantissa exponent

def ofDecimal (negative : Bool) (digits : Nat) (exponent : Int) : Binary64 :=
  let places : Int := (Nat.toDigits 10 digits).length
  if digits = 0 ∨ places + exponent < -330 then .finite negative 0 minExponent
  else if 310 < places + exponent then .infinite negative
  else ofRatio negative (.scaled digits 10 exponent)

/-- The numbers between which a decimal reads as `mantissa * 2 ^ exponent`, as quarters of the unit
`2 ^ exponent`. Below a power of two the unit is half as large. -/
def lowerBound (mantissa : Nat) (exponent : Int) : Nat :=
  if mantissa = Nat.pow 2 (mantissaBits - 1) ∧ minExponent < exponent then 4 * mantissa - 1
  else 4 * mantissa - 2

def upperBound (mantissa : Nat) : Nat :=
  4 * mantissa + 2

def readsBack (mantissa : Nat) (exponent : Int) (digits : Nat) (place : Int) : Bool :=
  let d := Ratio.scaled digits 10 place
  let u := Ratio.scaled 1 2 (exponent - 2)
  let value := d.num * u.den
  let lower := lowerBound mantissa exponent * u.num * d.den
  let upper := upperBound mantissa * u.num * d.den
  if mantissa % 2 = 0 then lower ≤ value && value ≤ upper else lower < value && value < upper

def leadingPlace (r : Ratio) : (steps : Nat) → (start : Int) → Int
  | 0, p => p
  | steps + 1, p =>
    let t := Ratio.scaled 1 10 p
    if t.num * r.den ≤ r.num * t.den then p else leadingPlace r steps (p - 1)

/-- The multiple of `10 ^ place` that is next below the value or that above it, whichever reads
back; if both do, the nearer one, and of two equally near ones the one above. -/
def nearestOn (mantissa : Nat) (exponent : Int) (place : Int) : Option Nat :=
  let v := Ratio.scaled mantissa 2 exponent
  let t := Ratio.scaled 1 10 place
  let scaled : Ratio := ⟨v.num * t.den, v.den * t.num⟩
  let low := scaled.num / scaled.den
  let (near, far) :=
    if 2 * (scaled.num % scaled.den) < scaled.den then (low, low + 1) else (low + 1, low)
  if readsBack mantissa exponent near place then some near
  else if readsBack mantissa exponent far place then some far
  else none

def shortestFrom (mantissa : Nat) (exponent : Int) (top : Int) : (tries : Nat) → Nat × Int
  | 0 => (0, top)
  | tries + 1 =>
    let place := top - (17 - tries)
    match nearestOn mantissa exponent place with
    | some digits => (digits, place)
    | none => shortestFrom mantissa exponent top tries

/-- The digits of the shortest decimal that reads back, and the place of the last one. A value just
below a power of ten is that power if it reads back, and then one digit is enough. -/
def shortest (mantissa : Nat) (exponent : Int) : Nat × Int :=
  let top := leadingPlace (.scaled mantissa 2 exponent) 700 310
  let (digits, place) := shortestFrom mantissa exponent top 18
  if digits = 10 then (1, place + 1) else (digits, place)

def positional (digits : Nat) (place : Int) : List Char :=
  let ds := Nat.toDigits 10 digits
  if 0 ≤ place then ds ++ List.replicate place.toNat '0'
  else
    let after := (-place).toNat
    let padded := List.replicate (after + 1 - ds.length) '0' ++ ds
    padded.take (padded.length - after) ++ ['.'] ++ padded.drop (padded.length - after)

def text : Binary64 → String
  | .nan => "NaN"
  | .infinite negative => if negative then "-inf" else "inf"
  | .finite negative mantissa exponent =>
    let magnitude :=
      if mantissa = 0 then ['0']
      else
        let (digits, place) := shortest mantissa exponent
        positional digits place
    String.ofList (if negative then '-' :: magnitude else magnitude)

end Binary64

end SymbolDocs
