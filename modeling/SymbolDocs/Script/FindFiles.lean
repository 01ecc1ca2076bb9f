import SymbolDocs.Script.Glob
import SymbolDocs.Script.Wrapper

namespace SymbolDocs.Script.FindFiles

open Text (Octets)

/-- A condition on a file, or something done with it; what is done counts as a condition that
holds. -/
inductive Expression where
  | always (holds : Bool)
  | named (pattern : Octets) (ignoresCase ofPath : Bool)
  | kind (letters : List Char)
  | isEmpty
  | executable
  | sized (sign : Option Char) (count unit : Nat)
  | print (separator : Char)
  | command (words : List Octets) (isBatched : Bool)
  | delete
  | prune
  | not (e : Expression)
  | and (a b : Expression)
  | or (a b : Expression)

namespace Expression

def acts : Expression → Bool
  | print _ | command _ _ | delete => true
  | not e => e.acts
  | and a b | or a b => a.acts || b.acts
  | _ => false

end Expression

structure Limits where
  least : Nat := 0
  most : Option Nat := none
  isDepthFirst : Bool := false

abbrev Read := Except Octets (Expression × Limits × List Octets)

def missing (word : Octets) : Octets :=
  Octets.ofText "missing argument to `" ++ word ++ ['\'']

def commandWords : List Octets → Option (List Octets × Bool × List Octets)
  | [';'] :: rest => some ([], false, rest)
  | ['\x7b', '\x7d'] :: ['+'] :: rest => some ([['\x7b', '\x7d']], true, rest)
  | w :: rest => (commandWords rest).map fun (ws, isBatched, rest) => (w :: ws, isBatched, rest)
  | [] => none

def sizeOf? (word : Octets) : Option Expression :=
  let (sign, body) := match word with
    | '+' :: r => (some '+', r)
    | '-' :: r => (some '-', r)
    | r => (none, r)
  let ds := body.takeWhile Char.isDigit
  let unit := match body.drop ds.length with
    | ['c'] => some 1
    | ['w'] => some 2
    | ['k'] => some 1024
    | ['M'] => some 1048576
    | ['b'] | [] => some 512
    | _ => none
  match natural? ds, unit with
  | some n, some unit => some (.sized sign n unit)
  | _, _ => none

mutual

def disjunction : (fuel : Nat) → Limits → List Octets → Read
  | 0, limits, ws => .ok (.always true, limits, ws)
  | fuel + 1, limits, ws => do
    let (a, limits, rest) ← conjunction fuel limits ws
    match rest with
    | ['-', 'o'] :: rest | ['-', 'o', 'r'] :: rest =>
      let (b, limits, rest) ← disjunction fuel limits rest
      .ok (.or a b, limits, rest)
    | rest => .ok (a, limits, rest)

def conjunction : (fuel : Nat) → Limits → List Octets → Read
  | 0, limits, ws => .ok (.always true, limits, ws)
  | fuel + 1, limits, ws => do
    let (a, limits, rest) ← negation fuel limits ws
    match rest with
    | [] | ['-', 'o'] :: _ | ['-', 'o', 'r'] :: _ | [')'] :: _ => .ok (a, limits, rest)
    | ['-', 'a'] :: rest | ['-', 'a', 'n', 'd'] :: rest =>
      let (b, limits, rest) ← conjunction fuel limits rest
      .ok (.and a b, limits, rest)
    | rest =>
      let (b, limits, rest) ← conjunction fuel limits rest
      .ok (.and a b, limits, rest)

def negation : (fuel : Nat) → Limits → List Octets → Read
  | 0, limits, ws => .ok (.always true, limits, ws)
  | fuel + 1, limits, ws =>
    match ws with
    | ['!'] :: rest | ['-', 'n', 'o', 't'] :: rest => do
      let (e, limits, rest) ← negation fuel limits rest
      .ok (.not e, limits, rest)
    | ['('] :: rest => do
      let (e, limits, rest) ← disjunction fuel limits rest
      match rest with
      | [')'] :: rest => .ok (e, limits, rest)
      | _ => .error (Octets.ofText "invalid expression; I was expecting to find a ')' somewhere " ++
          Octets.ofText "but did not see one.")
    | word :: rest => primary limits word rest
    | [] => .ok (.always true, limits, [])

def primary (limits : Limits) (word : Octets) (rest : List Octets) : Read :=
  let withValue (make : Octets → Except Octets (Expression × Limits)) : Read :=
    match rest with
    | [] => .error (missing word)
    | v :: rest => do
      let (e, limits) ← make v
      .ok (e, limits, rest)
  let plain (e : Expression) : Read := .ok (e, limits, rest)
  let command : Read := match commandWords rest with
    | none => .error (missing word)
    | some (ws, isBatched, rest) => .ok (.command ws isBatched, limits, rest)
  match String.ofList word with
  | "-name" => withValue fun v => .ok (.named v false false, limits)
  | "-iname" => withValue fun v => .ok (.named v true false, limits)
  | "-path" | "-wholename" => withValue fun v => .ok (.named v false true, limits)
  | "-type" => withValue fun v => .ok (.kind (v.filter (· != ',')), limits)
  | "-size" => withValue fun v => match sizeOf? v with
    | some e => .ok (e, limits)
    | none => .error (Octets.ofText "Invalid argument `" ++ v ++ Octets.ofText "' to -size")
  | "-maxdepth" => withValue fun v => .ok (.always true, { limits with most := natural? v })
  | "-mindepth" =>
    withValue fun v => .ok (.always true, { limits with least := (natural? v).getD 0 })
  | "-newer" => withValue fun _ => .ok (.always false, limits)
  | "-depth" => .ok (.always true, { limits with isDepthFirst := true }, rest)
  | "-empty" => plain .isEmpty
  | "-executable" => plain .executable
  | "-true" | "-follow" | "-xdev" | "-mount" => plain (.always true)
  | "-false" => plain (.always false)
  | "-print" => plain (.print '\n')
  | "-print0" => plain (.print (Char.ofNat 0))
  | "-prune" => plain .prune
  | "-delete" => .ok (.delete, { limits with isDepthFirst := true }, rest)
  | "-exec" | "-ok" | "-execdir" => command
  | _ =>
    if word.head? = some '-' then
      .error (Octets.ofText "unknown predicate `" ++ word ++ ['\''])
    else .error (Octets.ofText "paths must precede expression: `" ++ word ++ ['\''])

end

abbrev Batches := List (List Octets × List Octets)

def addTo (command : List Octets) (path : Octets) : Batches → Batches
  | [] => [(command, [path])]
  | (c, paths) :: rest =>
    if c == command then (c, paths ++ [path]) :: rest else (c, paths) :: addTo command path rest

structure State where
  batches : Batches := []
  isPruned : Bool := false

abbrev Search := StateT State Act

def lift (act : Act α) : Search α := fun st => do return (← act, st)

def fitsName (pattern name : Octets) (ignoresCase : Bool) : Bool :=
  let fold (t : Octets) : Octets := if ignoresCase then t.map Char.toLower else t
  Glob.fits (Glob.items ((fold pattern).map fun c => ⟨c, false⟩)) (fold name)

def lastPiece (path : Octets) : Octets :=
  match (path.reverse.dropWhile (· == '/')).reverse with
  | [] => path.take 1
  | bare => (Text.cutAtLast '/' bare).elim bare (·.2)

def evaluate (start : Start) (path : Octets) : Expression → Search Bool
  | .always holds => return holds
  | .named pattern ignoresCase ofPath =>
    return fitsName pattern (if ofPath then path else lastPiece path) ignoresCase
  | .kind letters => do
    let fs := (← lift get).files
    let isDirectory := fs.isDirectory (Octets.text path)
    return (letters.contains 'd' && isDirectory) || (letters.contains 'f' && !isDirectory)
  | .isEmpty => do
    let fs := (← lift get).files
    return match fs.get (Octets.text path) with
      | .ok (.file content _) => content.size == 0
      | .ok .directory => ((Glob.namesIn fs (Octets.text path)).filter fun n =>
          n != ['.'] && n != ['.', '.']).isEmpty
      | .error _ => false
  | .executable => do
    let fs := (← lift get).files
    return match fs.get (Octets.text path) with
      | .ok (.file _ executable) => executable
      | .ok .directory => true
      | .error _ => false
  | .sized sign count unit => do
    let fs := (← lift get).files
    let size := match fs.get (Octets.text path) with
      | .ok (.file content _) => (content.size + unit - 1) / unit
      | _ => 8
    return match sign with
      | some '+' => decide (count < size)
      | some _ => decide (size < count)
      | none => size == count
  | .print separator => do
    lift (write 1 (path ++ [separator]))
    return true
  | .prune => do
    modify fun st => { st with isPruned := true }
    return true
  | .delete => do
    let s ← lift get
    match s.files.locate (Octets.text path) with
    | .ok there => lift (set { s with files := s.files.erase there })
    | .error _ => pure ()
    return true
  | .command words isBatched => do
    if isBatched then
      modify fun st => { st with batches := addTo words path st.batches }
      return true
    else
      let mark : Octets := ['\x7b', '\x7d']
      let words := words.map fun w => Wrapper.replaceAll mark path (w.length + 1) w
      match ← lift (start words) with
      | .ok () => return (← lift get).status == 0
      | .error e =>
        let name := words.head?.getD []
        lift (Wrapper.complain "find" 1 (quoted name ++ Octets.ofText (": " ++ e.reason)))
        return false
  | .not e => do return !(← evaluate start path e)
  | .and a b => do
    if ← evaluate start path a then evaluate start path b else return false
  | .or a b => do
    if ← evaluate start path a then return true else evaluate start path b

def visit (start : Start) (e : Expression) (limits : Limits) :
    (fuel : Nat) → (depth : Nat) → Octets → Search Unit
  | 0, _, _ => pure ()
  | fuel + 1, depth, path => do
    let look : Search Unit := do
      if limits.least ≤ depth then
        let _ ← evaluate start path e
    modify fun st => { st with isPruned := false }
    if !limits.isDepthFirst then look
    let isPruned := (← get).isPruned
    let fs := (← lift get).files
    let goesOn := !isPruned && fs.isDirectory (Octets.text path) &&
      (match limits.most with
        | some most => decide (depth < most)
        | none => true)
    if goesOn then
      let names := (Glob.namesIn fs (Octets.text path)).filter fun n =>
        n != ['.'] && n != ['.', '.']
      let joined (n : Octets) : Octets :=
        if path.getLast? = some '/' then path ++ n else path ++ '/' :: n
      (names.mergeSort Glob.inOrder).forM fun n => visit start e limits fuel (depth + 1) (joined n)
    if limits.isDepthFirst then look

def run (start : Start) (args : List Octets) : Act Unit := do
  let isOperator (w : Octets) : Bool :=
    (w.head? == some '-' && 1 < w.length) || w == ['('] || w == ['!']
  let paths := args.takeWhile fun w => !isOperator w
  let words := args.drop paths.length
  let paths := if paths.isEmpty then [['.']] else paths
  let parsed : Read := if words.isEmpty then .ok (.always true, {}, [])
    else disjunction (4 * words.length + 8) {} words
  match parsed with
  | .error message => Wrapper.complain "find" 1 message
  | .ok (e, limits, _) =>
    let e := if e.acts then e else .and e (.print '\n')
    setStatus 0
    let look (path : Octets) : Search Bool := do
      let s ← lift get
      match s.files.get (Octets.text path) with
      | .ok _ =>
        visit start e limits (s.files.entries.length + 2) 0 path
        return true
      | .error cause =>
        lift (write 2 (Octets.ofText "find: " ++ quoted path ++
          Octets.ofText (": " ++ cause.reason ++ "\n")))
        return false
    let (found, st) ← (paths.mapM look).run {}
    st.batches.forM fun (command, paths) => do
      let words := command.flatMap fun w => if w = ['\x7b', '\x7d'] then paths else [w]
      Wrapper.startFor start "find" words
    setStatus (if found.all id then 0 else 1)

end SymbolDocs.Script.FindFiles
