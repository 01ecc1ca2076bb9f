import SymbolDocs.Script.CharClass
import SymbolDocs.Script.Tool.Basic

namespace SymbolDocs.Script.Tool

open Text (Octets)

def setEscape : List Char → Char × List Char
  | 'n' :: r => ('\n', r)
  | 't' :: r => ('\t', r)
  | 'r' :: r => ('\r', r)
  | 'a' :: r => ('\x07', r)
  | 'b' :: r => ('\x08', r)
  | 'f' :: r => ('\x0c', r)
  | 'v' :: r => ('\x0b', r)
  | c :: r =>
    if '0' ≤ c ∧ c ≤ '7' then
      let ds := ((c :: r).take 3).takeWhile fun d => '0' ≤ d && d ≤ '7'
      let n := ds.foldl (fun n d => n * 8 + (d.toNat - '0'.toNat)) 0
      (Char.ofNat (n % 256), (c :: r).drop ds.length)
    else (c, r)
  | [] => ('\\', [])

def setChar? : List Char → Option (Char × List Char)
  | [] => none
  | '\\' :: r => some (setEscape r)
  | c :: r => some (c, r)

def charsBetween (low high : Char) : List Char :=
  (List.range (high.toNat + 1 - low.toNat)).map fun n => Char.ofNat (low.toNat + n)

def allBytes : List Char := (List.range 256).map Char.ofNat

def setChars : (fuel : Nat) → List Char → Except Octets (List Char)
  | 0, _ => .ok []
  | _ + 1, [] => .ok []
  | fuel + 1, cs =>
    let named : Option (List Char × List Char) := match cs with
      | '[' :: ':' :: r => do
        let (name, rest) ← className? r
        let p ← charClass? name
        some (allBytes.filter p, rest)
      | _ => none
    match named with
    | some (members, rest) => (setChars fuel rest).map (members ++ ·)
    | none => match setChar? cs with
      | none => .ok []
      | some (low, '-' :: rest) =>
        match setChar? rest with
        | none => .ok [low, '-']
        | some (high, after) =>
          if high < low then
            .error (Octets.ofText "range-endpoints of '" ++ [low, '-', high] ++
              Octets.ofText "' are in reverse collating sequence order")
          else (setChars fuel after).map (charsBetween low high ++ ·)
      | some (c, rest) => (setChars fuel rest).map (c :: ·)

def setOf (word : Octets) : Except Octets (List Char) :=
  setChars (word.length + 1) word

def recoded (sources targets : List Char) (c : Char) : Char :=
  match sources.reverse.idxOf? c with
  | none => c
  | some fromEnd =>
    let place := sources.length - 1 - fromEnd
    match targets[place]? with
    | some t => t
    | none => targets.getLast?.getD c

def squeezedIn (set : List Char) : List Char → List Char
  | a :: b :: r =>
    if a == b && set.contains a then squeezedIn set (b :: r) else a :: squeezedIn set (b :: r)
  | cs => cs

def tr : Tool := withArguments
    { letters := "cCdst", isStrict := true
      long := [("complement", 'c'), ("delete", 'd'), ("squeeze-repeats", 's'),
        ("truncate-set1", 't')] } 1
  fun a => do
    let work (first second : List Char) : Job Unit := do
      let text := (← get).input
      modify fun d => { d with input := [] }
      let isChosen := first
      let first := if a.has 'c' || a.has 'C' then allBytes.filter (!isChosen.contains ·) else first
      let first := if a.has 't' then first.take second.length else first
      let hasSecond := 1 < a.operands.length
      let text := if a.has 'd' then text.filter (!first.contains ·)
        else if hasSecond then text.map (recoded first second)
        else text
      let text := if !a.has 's' then text
        else squeezedIn (if hasSecond then second else first) text
      Job.put text
    match a.operands with
    | [] => Job.refuse 1 (Octets.ofText "missing operand")
    | first :: rest =>
      let needsSecond := !a.has 'd' && !a.has 's'
      if rest.isEmpty && needsSecond then
        Job.complain 1 (Octets.ofText "missing operand after " ++ quoted first)
        Job.mutter (Octets.ofText
          "Two strings must be given when translating.\nTry 'tr --help' for more information.\n")
      else match setOf first, setOf (rest.head?.getD []) with
        | .ok f, .ok s => work f s
        | .error e, _ | _, .error e => Job.complain 1 e

end SymbolDocs.Script.Tool
