import SymbolDocs.Number.Binary64

namespace SymbolDocs.Binary64

def zero : Binary64 := .finite false 0 minExponent

def isNegative : Binary64 → Bool
  | .finite negative _ _ | .infinite negative => negative
  | .nan => false

def isZero : Binary64 → Bool
  | .finite _ mantissa _ => mantissa == 0
  | _ => false

def fraction? : Binary64 → Option (Int × Nat)
  | .finite negative mantissa exponent =>
    let r := Ratio.scaled mantissa 2 exponent
    some (if negative then -(r.num : Int) else r.num, r.den)
  | _ => none

def ofFraction (num : Int) (den : Nat) : Binary64 :=
  ofRatio (num < 0) ⟨num.natAbs, den⟩

def ofInt (n : Int) : Binary64 := ofFraction n 1

def neg : Binary64 → Binary64
  | .finite negative mantissa exponent => .finite (!negative) mantissa exponent
  | .infinite negative => .infinite (!negative)
  | .nan => .nan

def add (a b : Binary64) : Binary64 :=
  match a.fraction?, b.fraction? with
  | some (m, d), some (n, e) => ofFraction (m * e + n * d) (d * e)
  | _, _ => match a, b with
    | .infinite s, .infinite t => if s = t then .infinite s else .nan
    | .infinite s, .finite _ _ _ | .finite _ _ _, .infinite s => .infinite s
    | _, _ => .nan

def sub (a b : Binary64) : Binary64 := a.add b.neg

def mul (a b : Binary64) : Binary64 :=
  let negative := a.isNegative != b.isNegative
  match a.fraction?, b.fraction? with
  | some (m, d), some (n, e) => ofRatio negative ⟨(m * n).natAbs, d * e⟩
  | _, _ =>
    if a = .nan ∨ b = .nan ∨ a.isZero ∨ b.isZero then .nan else .infinite negative

def div (a b : Binary64) : Binary64 :=
  let negative := a.isNegative != b.isNegative
  match a.fraction?, b.fraction? with
  | some (m, d), some (n, e) =>
    if n = 0 then (if m = 0 then .nan else .infinite negative)
    else ofRatio negative ⟨m.natAbs * e, d * n.natAbs⟩
  | some _, none => if b = .nan then .nan else .finite negative 0 minExponent
  | none, some _ => if a = .nan then .nan else .infinite negative
  | none, none => .nan

def whole? (a : Binary64) : Option Int :=
  a.fraction?.map fun (n, d) => Int.tdiv n d

def truncate (a : Binary64) : Binary64 :=
  match a.whole? with
  | some n => ofInt n
  | none => a

def isWhole (a : Binary64) : Bool :=
  match a.fraction? with
  | some (n, d) => n % d == 0
  | none => false

def rem (a b : Binary64) : Binary64 :=
  match a.fraction?, b.fraction? with
  | some (m, d), some (n, e) =>
    if n = 0 then .nan else ofFraction (Int.tmod (m * e) (n * d)) (d * e)
  | some _, none => if b = .nan then .nan else a
  | none, _ => .nan

def pow (a b : Binary64) : Binary64 :=
  match a.fraction?, b.whole? with
  | some (m, d), some n =>
    if !b.isWhole then .nan
    else if 0 ≤ n then ofFraction (Int.pow m n.toNat) (Nat.pow d n.toNat)
    else if m = 0 then .infinite false
    else
      let k := (-n).toNat
      ofFraction ((Nat.pow d k : Nat) * (if m < 0 ∧ k % 2 = 1 then -1 else 1)) (Nat.pow m.natAbs k)
  | _, _ => .nan

def isLess (a b : Binary64) : Bool :=
  match a.fraction?, b.fraction? with
  | some (m, d), some (n, e) => decide (m * e < n * d)
  | _, _ => match a, b with
    | .nan, _ | _, .nan => false
    | .infinite s, .infinite t => s && !t
    | .infinite s, _ => s
    | _, .infinite t => !t
    | _, _ => false

def isSame (a b : Binary64) : Bool :=
  match a.fraction?, b.fraction? with
  | some (m, d), some (n, e) => m * e == n * d
  | _, _ => match a, b with
    | .infinite s, .infinite t => s == t
    | _, _ => false

def sqrt (a : Binary64) : Binary64 :=
  match a.fraction? with
  | some (m, d) =>
    if m < 0 then .nan
    else
      let scale := Nat.pow 2 600
      let root := integerRoot (m.toNat * d * scale * scale)
      ofRatio false ⟨root, d * scale⟩
  | none => if a = .infinite false then a else .nan
where
  integerRoot (n : Nat) : Nat :=
    (List.range (Nat.log2 n / 2 + 1)).reverse.foldl (fun root bit =>
      let candidate := root + Nat.pow 2 bit
      if candidate * candidate ≤ n then candidate else root) 0

end SymbolDocs.Binary64
