import SymbolDocs.Environment
import SymbolDocs.Files.FileSystem
import SymbolDocs.Text.Cut
import SymbolDocs.Text.Octets
/-!
Tools: the programs that scripts are made of. A tool takes its arguments and works at a desk, where
it finds what it can read and leaves what it writes.
-/

namespace SymbolDocs.Script

open Text (Octets)

structure Desk where
  tool : String
  input : Octets
  isSeekable : Bool
  files : FileSystem
  environment : Environment
  written : List (Bool × Octets) := []
  status : Nat := 0

abbrev Job := StateM Desk

abbrev Tool := List Octets → Job Unit

namespace Job

def put (text : Octets) : Job Unit :=
  if text.isEmpty then pure ()
  else modify fun d => { d with written := (false, text) :: d.written }

def putLine (text : Octets) : Job Unit := put (text ++ ['\n'])

def setStatus (status : Nat) : Job Unit :=
  modify fun d => { d with status }

def raiseStatus (status : Nat) : Job Unit :=
  modify fun d => { d with status := max d.status status }

def mutter (text : Octets) : Job Unit :=
  modify fun d => { d with written := (true, text) :: d.written }

def complain (status : Nat) (message : Octets) : Job Unit := do
  let tool := (← get).tool
  mutter (Octets.ofText (tool ++ ": ") ++ message ++ ['\n'])
  raiseStatus status

def complainOf (status : Nat) (message : String) : Job Unit :=
  complain status (Octets.ofText message)

def refuse (status : Nat) (message : Octets) : Job Unit := do
  let tool := (← get).tool
  complain status message
  mutter (Octets.ofText ("Try '" ++ tool ++ " --help' for more information.\n"))

end Job

structure Arguments where
  options : List (Char × Octets) := []
  operands : List Octets := []

namespace Arguments

def has (a : Arguments) (letter : Char) : Bool :=
  a.options.any fun o => o.1 == letter

def value? (a : Arguments) (letter : Char) : Option Octets :=
  (a.options.reverse.find? fun o => o.1 == letter).map (·.2)

def values (a : Arguments) (letter : Char) : List Octets :=
  a.options.filterMap fun o => if o.1 == letter then some o.2 else none

def lastOf (a : Arguments) (letters : List Char) : Option Char :=
  (a.options.reverse.find? fun o => letters.contains o.1).map (·.1)

def addOption (a : Arguments) (letter : Char) (value : Octets) : Arguments :=
  { a with options := (letter, value) :: a.options }

end Arguments

structure Known where
  letters : String := ""
  withValue : String := ""
  optional : String := ""
  long : List (String × Char) := []
  isStrict : Bool := false

def readLetters (known : Known) : List Char → Except Octets (List (Char × Octets) × Option Char)
  | [] => .ok ([], none)
  | c :: r =>
    if known.withValue.toList.contains c then
      if r.isEmpty then .ok ([], some c) else .ok ([(c, r)], none)
    else if known.optional.toList.contains c then .ok ([(c, r)], none)
    else if known.letters.toList.contains c then do
      let (os, needed) ← readLetters known r
      .ok ((c, []) :: os, needed)
    else .error (Octets.ofText "invalid option -- '" ++ [c, '\''])

def readArguments (known : Known) : List Octets → Except Octets Arguments
  | [] => .ok {}
  | ['-', '-'] :: rest => .ok { operands := rest }
  | ('-' :: '-' :: name) :: rest =>
    let (bare, value) := match Text.cutAt '=' name with
      | some (bare, value) => (bare, some value)
      | none => (name, none)
    match known.long.find? fun l => bare.isPrefixOf l.1.toList with
    | none => .error (Octets.ofText "unrecognized option '--" ++ name ++ ['\''])
    | some (_, letter) =>
      if known.withValue.toList.contains letter then
        match value, rest with
        | some v, rest => (readArguments known rest).map (·.addOption letter v)
        | none, v :: rest => (readArguments known rest).map (·.addOption letter v)
        | none, [] =>
          .error (Octets.ofText "option '--" ++ bare ++ Octets.ofText "' requires an argument")
      else (readArguments known rest).map (·.addOption letter (value.getD []))
  | ('-' :: c :: cs) :: rest =>
    match readLetters known (c :: cs) with
    | .error e => .error e
    | .ok (os, none) =>
      (readArguments known rest).map fun a => { a with options := os ++ a.options }
    | .ok (os, some letter) => match rest with
      | [] => .error (Octets.ofText "option requires an argument -- '" ++ [letter, '\''])
      | v :: rest => (readArguments known rest).map fun a =>
        { a with options := os ++ (letter, v) :: a.options }
  | operand :: rest =>
    if known.isStrict then .ok { operands := operand :: rest }
    else (readArguments known rest).map fun a => { a with operands := operand :: a.operands }

def withArguments (known : Known) (refusal : Nat) (work : Arguments → Job Unit) : Tool :=
  fun args => match readArguments known args with
    | .ok a => work a
    | .error e => Job.refuse refusal e

def natural? (ds : Octets) : Option Nat :=
  if ds.isEmpty || !ds.all Char.isDigit then none
  else some (ds.foldl (fun n c => n * 10 + (c.toNat - '0'.toNat)) 0)

def integer? : Octets → Option Int
  | '-' :: ds => (natural? ds).map fun n => -(n : Int)
  | '+' :: ds => (natural? ds).map fun n => (n : Int)
  | ds => (natural? ds).map fun n => (n : Int)

def decimal (n : Nat) : Octets := (toString n).toList

def lines (s : Octets) : List Octets :=
  if s.getLast? = some '\n' then Text.splitOn '\n' s.dropLast
  else if s.isEmpty then [] else Text.splitOn '\n' s

def unlines (ls : List Octets) : Octets :=
  ls.flatMap (· ++ ['\n'])

def unlinesLike (text : Octets) (ls : List Octets) : Octets :=
  let all := unlines ls
  if text.getLast? = some '\n' then all else all.dropLast

def endlessRead : Nat := 0x100000

def readDevice? (path : String) : Option Octets :=
  if path = "/dev/null" then some []
  else if path = "/dev/zero" then some (List.replicate endlessRead '\x00')
  else none

def quoted (name : Octets) : Octets :=
  if name.contains '\'' then '"' :: name ++ ['"'] else '\'' :: name ++ ['\'']

def isMeaningful (c : Char) : Bool :=
  " !\"$&()*;<=>[^|?\\'".toList.contains c || c == Char.ofNat 96 || c.toNat < 0x20

def shown (name : Octets) : Octets :=
  let startsOddly := name.head? == some '#' || name.head? == some '~'
  if name.isEmpty || startsOddly || name.any isMeaningful then quoted name else name

def readOperand (name : Octets) : Job (Except OsError Octets) := do
  let d ← get
  if name = ['-'] ∨ name = "/dev/stdin".toList ∨ name = "/dev/fd/0".toList then
    set { d with input := [] }
    return .ok d.input
  else match readDevice? (Octets.text name) with
    | some text => return .ok text
    | none => return (d.files.readBytes (Octets.text name)).map Octets.ofBytes

def forEachInput (failure : Nat) (operands : List Octets) (work : Octets → Octets → Job Unit) :
    Job Unit := do
  let operands := if operands.isEmpty then [['-']] else operands
  operands.forM fun name => do
    match ← readOperand name with
    | .ok text => work name text
    | .error e => Job.complain failure (shown name ++ Octets.ofText (": " ++ e.reason))

def gather (failure : Nat) (operands : List Octets) : Job Octets := do
  let operands := if operands.isEmpty then [['-']] else operands
  let texts ← operands.mapM fun name => do
    match ← readOperand name with
    | .ok text => return text
    | .error e =>
      Job.complain failure (shown name ++ Octets.ofText (": " ++ e.reason))
      return []
  return texts.flatten

def writeFile (name text : Octets) : Job (Except OsError Unit) := do
  let path := Octets.text name
  if path = "/dev/null" then return .ok ()
  let d ← get
  match d.files.writeBytes path (Octets.bytes text) with
  | .ok files =>
    set { d with files }
    return .ok ()
  | .error e => return .error e

end SymbolDocs.Script
