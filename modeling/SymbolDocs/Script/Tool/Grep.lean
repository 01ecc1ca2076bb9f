import SymbolDocs.Script.Glob
import SymbolDocs.Script.Regex.Parse
import SymbolDocs.Script.Tool.Text

namespace SymbolDocs.Script.Tool

open Text (Octets)
open Job (put)

structure Search where
  regex : Regex
  ignoresCase : Bool
  isInverted : Bool

def Search.finds (s : Search) (line : Octets) : Bool :=
  s.regex.occursIn s.ignoresCase line != s.isInverted

def searchRegex (a : Arguments) (isExtended : Bool) (patterns : List Octets) :
    Except String Regex := do
  let one (p : Octets) : Except String Regex := do
    let r ← if a.has 'F' then .ok (Regex.literal p) else Regex.parse { isExtended } p
    if a.has 'x' then .ok (.seq (.anchor .start) (.seq r (.anchor .finish)))
    else if a.has 'w' then .ok (.seq (.anchor .noWordBefore) (.seq r (.anchor .noWordAfter)))
    else .ok r
  match patterns with
  | [] => .ok (.one (.among false []))
  | p :: ps => ps.foldlM (fun r p => do .ok (.either r (← one p))) (← one p)

structure Showing where
  hasName : Bool
  hasNumber : Bool
  onlyMatches : Bool
  before : Nat
  after : Nat

def Showing.start (w : Showing) (name : Octets) (number : Nat) (mark : Char) : Octets :=
  (if w.hasName then name ++ [mark] else []) ++
    (if w.hasNumber then decimal number ++ [mark] else [])

def matchesIn (s : Search) (line : Octets) : List Octets :=
  ((s.regex.allIn s.ignoresCase line).map fun (a, b) => a.textTo b).filter (!·.isEmpty)

/-- Found lines with those around them: each is shown once, and gaps are marked. -/
def around (w : Showing) (found : List Bool) : List Bool :=
  let indices := List.range found.length
  let isFound (i : Nat) : Bool := found[i]?.getD false
  indices.map fun i =>
    (List.range (w.after + 1)).any (fun k => k ≤ i && isFound (i - k)) ||
      (List.range (w.before + 1)).any fun k => isFound (i + k)

def showLines (w : Showing) (s : Search) (name : Octets) (ls : List Octets) (found : List Bool) :
    Octets :=
  let marked := List.zip (List.range ls.length) (List.zip ls (List.zip found (around w found)))
  let rec go (last : Option Nat) : List (Nat × Octets × Bool × Bool) → Octets
    | [] => []
    | (i, line, isFound, isShown) :: rest =>
      if !isShown then go last rest
      else
        let hasContext := w.before != 0 || w.after != 0
        let isApart := hasContext && last.isSome && last != some (i - 1)
        let gap := if isApart then ['-', '-', '\n'] else []
        let start := w.start name (i + 1) (if isFound then ':' else '-')
        let text := if w.onlyMatches then
            (matchesIn s line).flatMap fun m => start ++ m ++ ['\n']
          else start ++ line ++ ['\n']
        gap ++ text ++ go (some i) rest
  go none marked

def firstOnly : Nat → List Bool → List Bool
  | _, [] => []
  | n, b :: bs => if b then (n != 0) :: firstOnly (n - 1) bs else false :: firstOnly n bs

def filesBelow (fs : FileSystem) (name : Octets) : List Octets :=
  match fs.get (Octets.text name), fs.locate (Octets.text name) with
  | .ok .directory, .ok there =>
    let below := fs.entries.filterMap fun e => match e.2 with
      | .file _ _ => if there.isPrefixOf e.1 then some (e.1.drop there.length) else none
      | .directory => none
    let paths := below.map fun names =>
      Octets.ofText (Path.join (Octets.text name) (Text.joinWith "/" names))
    paths.mergeSort Glob.inOrder
  | _, _ => [name]

def grepKnown : Known :=
  { letters := "EFGPivcnlLqsowxhHrRaUzIZ", withValue := "efmABCdD"
    long := [("extended-regexp", 'E'), ("fixed-strings", 'F'), ("basic-regexp", 'G'),
      ("ignore-case", 'i'), ("invert-match", 'v'), ("count", 'c'), ("line-number", 'n'),
      ("files-with-matches", 'l'), ("files-without-match", 'L'), ("quiet", 'q'), ("silent", 'q'),
      ("no-messages", 's'), ("only-matching", 'o'), ("word-regexp", 'w'), ("line-regexp", 'x'),
      ("no-filename", 'h'), ("with-filename", 'H'), ("recursive", 'r'), ("regexp", 'e'),
      ("file", 'f'), ("max-count", 'm'), ("after-context", 'A'), ("before-context", 'B'),
      ("context", 'C'), ("color", 'Z'), ("colour", 'Z'), ("text", 'a')] }

def searchText (a : Arguments) (s : Search) (w : Showing) (name text : Octets) : Job Bool := do
  let ls := lines text
  let found := ls.map s.finds
  let found := match (a.value? 'm').bind natural? with
    | some n => firstOnly n found
    | none => found
  let count := (found.filter id).length
  let title := if name = ['-'] then "(standard input)".toList else name
  if a.has 'q' then pure ()
  else if a.has 'l' then
    if count ≠ 0 then Job.putLine title
  else if a.has 'L' then
    if count = 0 then Job.putLine title
  else if a.has 'c' then
    Job.putLine ((if w.hasName then title ++ [':'] else []) ++ decimal count)
  else if text.contains (Char.ofNat 0) && count != 0 && !a.has 'a' then
    Job.put (Octets.ofText "grep: " ++ title ++ Octets.ofText ": binary file matches\n")
  else put (showLines w s title ls found)
  return count != 0

def grepWith (isExtended : Bool) : Tool := withArguments grepKnown 2 fun a => do
  let files ← (a.values 'f').mapM readOperand
  let fromFiles := files.flatMap fun
    | .ok text => lines text
    | .error _ => []
  let explicit := (a.values 'e').flatMap (Text.splitOn '\n') ++ fromFiles
  let hasExplicit := a.has 'e' || a.has 'f'
  let (patterns, operands) : Option (List Octets) × List Octets :=
    if hasExplicit then (some explicit, a.operands)
    else match a.operands with
      | [] => (none, [])
      | p :: rest => (some (Text.splitOn '\n' p), rest)
  match patterns with
  | none =>
    Job.mutter (Octets.ofText ("Usage: grep [OPTION]... PATTERNS [FILE]...\n" ++
      "Try 'grep --help' for more information.\n"))
    Job.setStatus 2
  | some patterns =>
    match searchRegex a ((isExtended || a.has 'E' || a.has 'P') && !a.has 'G') patterns with
    | .error e => Job.complainOf 2 e
    | .ok regex =>
      let fs := (← get).files
      let isRecursive := a.has 'r' || a.has 'R'
      let operands := if operands.isEmpty then (if isRecursive then [['.']] else [['-']])
        else operands
      let names := if isRecursive then operands.flatMap (filesBelow fs) else operands
      let number (letter : Char) : Nat :=
        ((a.value? letter).bind natural?).getD (((a.value? 'C').bind natural?).getD 0)
      let hasName := (1 < operands.length || isRecursive || a.has 'H') && !a.has 'h'
      let w : Showing := ⟨hasName, a.has 'n', a.has 'o', number 'B', number 'A'⟩
      let s : Search := ⟨regex, a.has 'i', a.has 'v'⟩
      let rec go : List Octets → Job Bool
        | [] => return false
        | name :: rest => do
          match ← readOperand name with
          | .ok text =>
            let here ← searchText a s w name text
            let there ← go rest
            return here || there
          | .error e =>
            if !a.has 's' then Job.complain 2 (name ++ Octets.ofText (": " ++ e.reason))
            else Job.raiseStatus 2
            go rest
      let isFound ← go names
      let isFaulty := (← get).status != 0
      if isFound && (a.has 'q' || !isFaulty) then Job.setStatus 0
      else if !isFaulty then Job.setStatus 1

end SymbolDocs.Script.Tool
