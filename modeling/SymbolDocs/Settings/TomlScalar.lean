import SymbolDocs.Settings.Value

namespace SymbolDocs.Settings.Toml

open Text (decimalDigit? hexadecimalDigit? isDecimalDigit ofDigits)

def digits? (digit? : Char → Option Nat) : List Char → Option (List Nat)
  | [] => none
  | [c] => (digit? c).map fun d => [d]
  | c :: '_' :: r => do return (← digit? c) :: (← digits? digit? r)
  | c :: d :: r => do return (← digit? c) :: (← digits? digit? (d :: r))

def sign : List Char → Bool × List Char
  | '-' :: r => (true, r)
  | '+' :: r => (false, r)
  | r => (false, r)

def wholeDigits? (s : List Char) : Option (List Nat) :=
  match s with
  | ['0'] => some [0]
  | '0' :: _ => none
  | _ => digits? decimalDigit? s

def binaryDigit? (limit : Nat) (c : Char) : Option Nat :=
  (decimalDigit? c).filter (· < limit)

def fitsInteger (n : Int) : Bool :=
  -0x8000000000000000 ≤ n && n < 0x8000000000000000

def integer? (s : List Char) : Option Int :=
  let magnitude : Option Int := match s with
    | '0' :: 'x' :: r => (digits? hexadecimalDigit? r).map fun ds => ofDigits 16 ds
    | '0' :: 'o' :: r => (digits? (binaryDigit? 8) r).map fun ds => ofDigits 8 ds
    | '0' :: 'b' :: r => (digits? (binaryDigit? 2) r).map fun ds => ofDigits 2 ds
    | _ =>
      let (negative, r) := sign s
      (wholeDigits? r).map fun ds => if negative then -(ofDigits 10 ds : Int) else ofDigits 10 ds
  magnitude.filter fitsInteger

def exponent? (s : List Char) : Option Int :=
  let (negative, r) := sign s
  (digits? decimalDigit? r).map fun ds =>
    if negative then -(ofDigits 10 ds : Int) else ofDigits 10 ds

def splitExponent (s : List Char) : Option (List Char × Option Int) :=
  let before := s.takeWhile fun c => c != 'e' && c != 'E'
  match s.drop before.length with
  | [] => some (before, none)
  | _ :: r => (exponent? r).map fun e => (before, some e)

def float? (s : List Char) : Option Binary64 :=
  let (negative, r) := sign s
  if r = ['i', 'n', 'f'] then some (.infinite negative)
  else if r = ['n', 'a', 'n'] then some .nan
  else do
    let (before, exponent) ← splitExponent r
    let whole := before.takeWhile (· != '.')
    let ws ← wholeDigits? whole
    let (fs, isFloat) ← match before.drop whole.length with
      | [] => some ([], exponent.isSome)
      | _ :: fraction => (digits? decimalDigit? fraction).map fun ds => (ds, true)
    if isFloat then
      let x := Binary64.ofDecimal negative (ofDigits 10 (ws ++ fs))
        (exponent.getD 0 - fs.length)
      if x = .infinite false then none else some x
    else none

def twoDigits? (a b : Char) : Option Nat := do
  return 10 * (← decimalDigit? a) + (← decimalDigit? b)

def isLeapYear (year : Nat) : Bool :=
  year % 4 == 0 && (year % 100 != 0 || year % 400 == 0)

def daysIn (year month : Nat) : Nat :=
  if month = 2 then (if isLeapYear year then 29 else 28)
  else if month = 4 ∨ month = 6 ∨ month = 9 ∨ month = 11 then 30
  else 31

def dropDate? : List Char → Option (List Char)
  | y1 :: y2 :: y3 :: y4 :: '-' :: m1 :: m2 :: '-' :: d1 :: d2 :: r => do
    let year := 100 * (← twoDigits? y1 y2) + (← twoDigits? y3 y4)
    let month ← twoDigits? m1 m2
    let day ← twoDigits? d1 d2
    if 1 ≤ month ∧ month ≤ 12 ∧ 1 ≤ day ∧ day ≤ daysIn year month then some r else none
  | _ => none

def dropTime? : List Char → Option (List Char)
  | h1 :: h2 :: ':' :: m1 :: m2 :: ':' :: s1 :: s2 :: r => do
    let hour ← twoDigits? h1 h2
    let minute ← twoDigits? m1 m2
    let second ← twoDigits? s1 s2
    if hour ≤ 23 ∧ minute ≤ 59 ∧ second ≤ 60 then
      match r with
      | '.' :: c :: fraction =>
        if isDecimalDigit c then some (fraction.dropWhile isDecimalDigit) else none
      | '.' :: [] => none
      | r => some r
    else none
  | _ => none

def isOffset : List Char → Bool
  | ['Z'] | ['z'] => true
  | [s, h1, h2, ':', m1, m2] =>
    (s == '+' || s == '-') &&
      match twoDigits? h1 h2, twoDigits? m1 m2 with
      | some hour, some minute => hour ≤ 23 && minute ≤ 59
      | _, _ => false
  | _ => false

def isDateTime (s : List Char) : Bool :=
  match dropDate? s with
  | some [] => true
  | some (c :: r) =>
    (c == 'T' || c == 't' || c == ' ') &&
      match dropTime? r with
      | some [] => true
      | some rest => isOffset rest
      | none => false
  | none => dropTime? s == some []

/-- A date or time is a table of its own kind, of which only the kind is ever seen. -/
def scalar? (s : List Char) : Option Value :=
  if s = ['t', 'r', 'u', 'e'] then some (.bool true)
  else if s = ['f', 'a', 'l', 's', 'e'] then some (.bool false)
  else if isDateTime s then some (.table [])
  else match integer? s with
    | some n => some (.signed n)
    | none => (float? s).map .float

end SymbolDocs.Settings.Toml
