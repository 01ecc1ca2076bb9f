import SymbolDocs.Environment
import SymbolDocs.Files.FileSystem
import SymbolDocs.Program.Signal
import SymbolDocs.Script.Syntax
/-!
A shell between two commands: its variables and functions, the channels that it reads and writes,
and the files that everyone shares.
-/

namespace SymbolDocs.Script

open Text (Octets)

structure Variable where
  name : Octets
  value : Option Octets
  isExported : Bool := false
  isReadonly : Bool := false

/-- What a channel leads to. All channels to one stream share its position. -/
inductive Stream where
  | nowhere
  | source (text : Octets)
  | sink (written : List Octets) (size : Nat)
  | file (place : List String) (position : Nat) (isAppended : Bool)

structure Options where
  exportsAll : Bool := false
  protectsFiles : Bool := false
  endsOnFailure : Bool := false
  keepsPatterns : Bool := false
  onlyReads : Bool := false
  refusesUnset : Bool := false
  echoes : Bool := false
  traces : Bool := false
  deriving DecidableEq, Repr

abbrev Jobs := List (Nat × Nat)

structure Shell where
  files : FileSystem
  bindings : List Variable
  functions : List (Octets × Command) := []
  name : Octets
  arguments : List Octets
  streams : Array Stream
  channels : List (Nat × Nat)
  options : Options := {}
  documents : Array Word := #[]
  traps : List (String × Octets) := []
  pending : List String := []
  status : Nat := 0
  killer : Option Signal := none
  outputStatus : Option Nat := none
  line : Nat := 0
  readTo : Nat := 0
  command : Option Octets := none
  isTested : Bool := false
  loops : Nat := 0
  frames : List (List (Octets × Option Variable)) := []
  jobs : Jobs := []
  aliases : List (Octets × Octets) := []
  remembered : List Octets := []
  optionOffset : Nat := 0
  mask : Nat := 18

/-- What ends the commands that are being carried out. -/
inductive Interruption where
  | breaks (loops : Nat)
  | continues (loops : Nat)
  | returns
  | ends
  | fails
  deriving DecidableEq, Repr

abbrev Act := ExceptT Interruption (StateM Shell)

namespace Shell

def named? (s : Shell) (name : Octets) : Option Variable :=
  s.bindings.find? fun v => v.name == name

def value? (s : Shell) (name : Octets) : Option Octets :=
  (s.named? name).bind (·.value)

def get (s : Shell) (name : String) : Option Octets :=
  s.value? name.toList

def putVariable (s : Shell) (v : Variable) : Shell :=
  if (s.named? v.name).isSome then
    { s with bindings := s.bindings.map fun w => if w.name == v.name then v else w }
  else { s with bindings := s.bindings ++ [v] }

def dropVariable (s : Shell) (name : Octets) : Shell :=
  { s with bindings := s.bindings.filter fun v => v.name != name }

def restoreVariable (s : Shell) (name : Octets) : Option Variable → Shell
  | some v => s.putVariable v
  | none => s.dropVariable name

def bucket (name : Octets) : Nat :=
  (((name.head?.map Char.toNat).getD 0) * 16 + (name.map Char.toNat).foldl (· + ·) 0) % 39

def exported (s : Shell) : List (Octets × Octets) :=
  let seen := s.bindings.filterMap fun v =>
    if v.isExported then v.value.map fun value => (v.name, value) else none
  (List.range 39).flatMap fun n => seen.filter fun (name, _) => bucket name == n

def environment (s : Shell) : Environment :=
  s.exported.map fun (name, value) => (Octets.text name, Octets.text value)

def stream? (s : Shell) (channel : Nat) : Option Nat :=
  (s.channels.find? fun c => c.1 == channel).map (·.2)

def setChannel (s : Shell) (channel number : Nat) : Shell :=
  { s with channels := (channel, number) :: s.channels.filter fun c => c.1 != channel }

def closeChannel (s : Shell) (channel : Nat) : Shell :=
  { s with channels := s.channels.filter fun c => c.1 != channel }

def addStream (s : Shell) (stream : Stream) : Nat × Shell :=
  (s.streams.size, { s with streams := s.streams.push stream })

def setStream (s : Shell) (number : Nat) (stream : Stream) : Shell :=
  { s with streams := s.streams.setIfInBounds number stream }

def start (files : FileSystem) (env : Environment) (name : Octets) (arguments : List Octets)
    (input : Octets) : Shell :=
  let given := env.map fun (name, value) =>
    { name := Octets.ofText name
      value := some (Octets.ofText value)
      isExported := true : Variable }
  { files, name, arguments
    bindings := given
    streams := #[.source input, .sink [] 0, .sink [] 0]
    channels := [(0, 0), (1, 1), (2, 2)] }

def withOwnVariables (s : Shell) : Shell :=
  let set (s : Shell) (name : String) (value : Octets) (isExported : Bool) : Shell :=
    let kept := ((s.named? name.toList).map (·.isExported)).getD false
    s.putVariable { name := name.toList, value := some value, isExported := isExported || kept }
  let s := set s "IFS" [' ', '\t', '\n'] false
  let s := set s "OPTIND" ['1'] false
  let s := if (s.get "PS4").isSome then s else set s "PS4" ['+', ' '] false
  set s "PWD" (Octets.ofText (Path.ofNames s.files.cwd)) true

def written (s : Shell) (number : Nat) : Octets :=
  match s.streams[number]? with
  | some (.sink pieces _) => pieces.reverse.flatten
  | _ => []

end Shell

def sinkLimit : Nat := 0x100000

def brokenPipeStatus : Nat := 141

def overwrite (content : ByteArray) (position : Nat) (text : Octets) : ByteArray :=
  let bytes := Octets.bytes text
  let gap := position - content.size
  let padded := if gap = 0 then content else
    content ++ ByteArray.mk (Array.replicate gap 0)
  padded.extract 0 position ++ bytes ++ padded.extract (position + bytes.size) padded.size

def writeStream (number : Nat) (text : Octets) : Act Unit := do
  let s ← get
  match s.streams[number]? with
  | some (.sink pieces size) =>
    let size := size + text.length
    set (s.setStream number (.sink (text :: pieces) size))
    if sinkLimit < size then
      modify fun s => { s with status := brokenPipeStatus }
      throw .ends
  | some (.file place position isAppended) =>
    match s.files.entry? place with
    | some (.file content executable) =>
      let position := if isAppended then content.size else position
      let entry := Entry.file (overwrite content position text) executable
      let s := { s with files := s.files.put place entry }
      set (s.setStream number (.file place (position + text.length) isAppended))
    | _ => pure ()
  | _ => pure ()

def write (channel : Nat) (text : Octets) : Act Unit := do
  if text.isEmpty then return
  match (← get).stream? channel with
  | some number => writeStream number text
  | none => pure ()

def readable (s : Shell) (number : Nat) : Octets × Bool :=
  match s.streams[number]? with
  | some (.source text) => (text, false)
  | some (.file place position _) =>
    match s.files.entry? place with
    | some (.file content _) => (Octets.ofBytes (content.extract position content.size), true)
    | _ => ([], true)
  | _ => ([], false)

def input (channel : Nat) : Act (Octets × Bool) := do
  let s ← get
  return match s.stream? channel with
    | some number => readable s number
    | none => ([], false)

def leave (channel : Nat) (text rest : Octets) : Act Unit := do
  let s ← get
  match s.stream? channel with
  | none => pure ()
  | some number =>
    match s.streams[number]? with
    | some (.source _) => set (s.setStream number (.source rest))
    | some (.file place position isAppended) =>
      set (s.setStream number (.file place (position + (text.length - rest.length)) isAppended))
    | _ => pure ()

def setStatus (status : Nat) : Act Unit :=
  modify fun s => { s with status }

def warnAt (line : Nat) (message : Octets) : Act Unit := do
  let s ← get
  let command := match s.command with
    | some c => c ++ [':', ' ']
    | none => []
  let place := Octets.ofText s!": {line}: "
  write 2 (s.name ++ place ++ command ++ message ++ ['\n'])

def warn (message : Octets) : Act Unit := do
  warnAt (← get).line message

def abort (message : Octets) : Act α := do
  warn message
  setStatus 2
  throw .fails

def abortWith (message : String) : Act α :=
  abort (Octets.ofText message)

def setVariable (name value : Octets) : Act Unit := do
  let s ← get
  match s.named? name with
  | some v =>
    if v.isReadonly then abort (name ++ Octets.ofText ": is read only")
    set (s.putVariable { v with
      value := some value
      isExported := v.isExported || s.options.exportsAll })
  | none => set (s.putVariable { name, value := some value, isExported := s.options.exportsAll })

def unsetVariable (name : Octets) : Act Unit := do
  match (← get).named? name with
  | some v =>
    if v.isReadonly then abort (name ++ Octets.ofText ": is read only")
    modify (·.dropVariable name)
  | none => pure ()

def observe (act : Act α) : Act (Except Interruption α) := fun s =>
  let (result, s) := act s
  (.ok result, s)

end SymbolDocs.Script
