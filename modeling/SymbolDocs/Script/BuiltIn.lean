import SymbolDocs.Script.Condition
import SymbolDocs.Script.Expand
import SymbolDocs.Script.Format
import SymbolDocs.Text.Cut

namespace SymbolDocs.Script

open Text (Octets)

abbrev BuiltIn := List Octets → Act Unit

namespace BuiltIn

def say (text : Octets) : Act Unit := write 1 text

def succeed : Act Unit := setStatus 0

def options (allowed : String) : (fuel : Nat) → List Octets → Act (List Char × List Octets)
  | 0, args => return ([], args)
  | fuel + 1, args => do
    match args with
    | ['-', '-'] :: rest => return ([], rest)
    | ('-' :: c :: cs) :: rest =>
      match (c :: cs).find? fun c => !allowed.toList.contains c with
      | some bad => abort (Octets.ofText "Illegal option -" ++ [bad])
      | none =>
        let (letters, operands) ← options allowed fuel rest
        return (c :: cs ++ letters, operands)
    | args => return ([], args)

def optionsOf (allowed : String) (args : List Octets) : Act (List Char × List Octets) :=
  options allowed (args.length + 1) args

def natural (word : Octets) : Act Nat := do
  let ds := word.dropWhile Arithmetic.isBlank
  let digits := ds.takeWhile Char.isDigit
  if digits.isEmpty || !(ds.drop digits.length).all Arithmetic.isBlank then
    abort (Octets.ofText "Illegal number: " ++ word)
  else return Arithmetic.digitsValue 10 digits

def quoteFrom : (fuel : Nat) → List Char → Octets
  | 0, _ => []
  | fuel + 1, cs =>
    let plain := cs.takeWhile (· != '\'')
    let rest := cs.drop plain.length
    let quotes := rest.takeWhile (· == '\'')
    let start := '\'' :: plain ++ ['\'']
    if quotes.isEmpty then start
    else
      let after := rest.drop quotes.length
      start ++ '"' :: quotes ++ '"' :: (if after.isEmpty then [] else quoteFrom fuel after)

def quote (text : Octets) : Octets := quoteFrom (text.length + 1) text

def leaveLoops (interruption : Nat → Interruption) : BuiltIn := fun args => do
  let count ← match args with
    | [] => pure 1
    | word :: _ => natural word
  if count = 0 then abort (Octets.ofText "Illegal number: " ++ args.head?.getD [])
  let loops := (← get).loops
  succeed
  if loops ≠ 0 then throw (interruption (min count loops))

def givenStatus : List Octets → Act Nat
  | [] => return (← get).status
  | word :: _ => do return (← natural word) % 256

def exit : BuiltIn := fun args => do
  setStatus (← givenStatus args)
  throw .ends

def leaveFunction : BuiltIn := fun args => do
  setStatus (← givenStatus args)
  throw .returns

def assigned (word : Octets) : Act (Octets × Option Octets) := do
  let (name, value) := match Text.cutAt '=' word with
    | some (name, value) => (name, some value)
    | none => (word, none)
  if isName name then return (name, value)
  else abort (name ++ Octets.ofText ": bad variable name")

def listVariables (command : String) (vs : List Variable) : Act Unit := do
  let lines := vs.map fun v =>
    let value := match v.value with
      | some t => '=' :: quote t
      | none => []
    v.name ++ value
  let start := if command = "" then [] else Octets.ofText (command ++ " ")
  say ((lines.mergeSort Glob.inOrder).flatMap fun line => start ++ line ++ ['\n'])

def mark (command : String) (isMarked : Variable → Bool) (change : Variable → Variable) : BuiltIn :=
  fun args => do
    let (letters, operands) ← optionsOf "p" args
    if operands.isEmpty || letters.contains 'p' then
      listVariables command ((← get).bindings.filter isMarked)
    else
      operands.forM fun word => do
        let (name, value) ← assigned word
        match value with
        | some v => setVariable name v
        | none => pure ()
        let s ← get
        let old : Variable := (s.named? name).getD { name, value := none }
        set (s.putVariable (change old))
    succeed

def markExported : BuiltIn :=
  mark "export" (·.isExported) fun v => { v with isExported := true }

def markReadonly : BuiltIn :=
  mark "readonly" (·.isReadonly) fun v => { v with isReadonly := true }

def makeLocal : BuiltIn := fun args => do
  if (← get).frames.isEmpty then abortWith "not in a function"
  args.forM fun word => do
    let (name, value) ← assigned word
    let s ← get
    match s.frames with
    | [] => pure ()
    | frame :: frames =>
      if !frame.any fun saved => saved.1 == name then
        set { s with frames := ((name, s.named? name) :: frame) :: frames }
    match value with
    | some v => setVariable name v
    | none => pure ()
  succeed

def unset : BuiltIn := fun args => do
  let (letters, operands) ← optionsOf "fv" args
  operands.forM fun name => do
    if letters.contains 'f' then
      modify fun s => { s with functions := s.functions.filter fun f => f.1 != name }
    else if !isName name then abort (name ++ Octets.ofText ": bad variable name")
    else unsetVariable name
  succeed

def shift : BuiltIn := fun args => do
  let count ← match args with
    | [] => pure 1
    | word :: _ => natural word
  let s ← get
  if s.arguments.length < count then abortWith "can't shift that many"
  set { s with arguments := s.arguments.drop count, status := 0 }

def optionNames : List (String × Char) :=
  [("errexit", 'e'), ("noglob", 'f'), ("ignoreeof", 'I'), ("interactive", 'i'), ("monitor", 'm'),
    ("noexec", 'n'), ("stdin", 's'), ("xtrace", 'x'), ("verbose", 'v'), ("vi", 'V'), ("emacs", 'E'),
    ("noclobber", 'C'), ("allexport", 'a'), ("notify", 'b'), ("nounset", 'u'),
    ("privileged", 'p'), ("nolog", 'l'),
    ("debug", 'd')]

def switch (o : Options) (isOn : Bool) : Char → Option Options
  | 'e' => some { o with endsOnFailure := isOn }
  | 'f' => some { o with keepsPatterns := isOn }
  | 'n' => some { o with onlyReads := isOn }
  | 'x' => some { o with traces := isOn }
  | 'v' => some { o with echoes := isOn }
  | 'C' => some { o with protectsFiles := isOn }
  | 'a' => some { o with exportsAll := isOn }
  | 'u' => some { o with refusesUnset := isOn }
  | c => if "ImsVEbp".toList.contains c then some o else none

def switchLetter (isOn : Bool) (letter : Char) : Act Unit := do
  match switch (← get).options isOn letter with
  | some o => modify fun s => { s with options := o }
  | none => abort (Octets.ofText "Illegal option " ++ [if isOn then '-' else '+', letter])

def listOptions (asCommands : Bool) : Act Unit := do
  let on := letters (← get).options
  let title := if asCommands then [] else Octets.ofText "Current option settings\n"
  say (title ++ optionNames.flatMap fun (name, letter) =>
    let isOn := on.contains letter
    if asCommands then
      Octets.ofText ("set " ++ (if isOn then "-" else "+") ++ "o " ++ name ++ "\n")
    else
      let fill := String.ofList (List.replicate (16 - name.length) ' ')
      Octets.ofText (name ++ fill ++ (if isOn then "on" else "off") ++ "\n"))

def setOptions : List Octets → Act (Option (List Octets))
  | [] => return none
  | ['-', '-'] :: rest => return some rest
  | ['-'] :: rest => do
    modify fun s => { s with options := { s.options with traces := false, echoes := false } }
    return if rest.isEmpty then none else some rest
  | ['-', 'o'] :: [] => do
    listOptions false
    return none
  | ['+', 'o'] :: [] => do
    listOptions true
    return none
  | ('-' :: ls) :: rest => named true ls rest
  | ('+' :: ls) :: rest => named false ls rest
  | args => return some args
where
  named (isOn : Bool) (ls : List Char) : List Octets → Act (Option (List Octets))
    | name :: rest => do
      if ls.getLast? = some 'o' then
        ls.dropLast.forM (switchLetter isOn)
        match optionNames.find? fun o => o.1.toList == name with
        | some (_, letter) => switchLetter isOn letter
        | none =>
          abort (Octets.ofText ("Illegal option " ++ (if isOn then "-o " else "+o ")) ++ name)
        setOptions rest
      else
        ls.forM (switchLetter isOn)
        setOptions (name :: rest)
    | [] => do
      ls.forM (switchLetter isOn)
      return none

def setShell : BuiltIn := fun args => do
  if args.isEmpty then
    listVariables "" ((← get).bindings.filter (·.value.isSome))
  match ← setOptions args with
  | some arguments => modify fun s => { s with arguments, optionOffset := 0 }
  | none => pure ()
  succeed

def logicalLine (isRaw : Bool) : List Char → List Mark × List Char × Bool
  | [] => ([], [], false)
  | '\n' :: r => ([], r, true)
  | '\\' :: c :: r =>
    if isRaw then
      let (line, rest, isEnded) := logicalLine isRaw (c :: r)
      (⟨'\\', false⟩ :: line, rest, isEnded)
    else
      let (line, rest, isEnded) := logicalLine isRaw r
      (if c = '\n' then line else ⟨c, true⟩ :: line, rest, isEnded)
  | c :: r =>
    let (line, rest, isEnded) := logicalLine isRaw r
    if c = '\\' && !isRaw then (line, rest, isEnded) else (⟨c, false⟩ :: line, rest, isEnded)

/-- Divides a line among names: each takes a field, the last one all that is left. -/
def distribute (separators : Octets) : (names : List Octets) → List Mark →
    List (Octets × Octets)
  | [], _ => []
  | [name], line =>
    let isSeparator (m : Mark) : Bool := !m.isLiteral && separators.contains m.char
    let isBlank (m : Mark) : Bool := isSeparator m && (isSpace m.char || m.char == '\n')
    let field := line.takeWhile fun m => !isSeparator m
    let rest := line.drop field.length
    let onlyEnds := rest.all isSeparator && (rest.filter fun m => !isBlank m).length ≤ 1
    let value := if onlyEnds then field else (line.reverse.dropWhile isBlank).reverse
    [(name, value.map Mark.char)]
  | name :: names, line =>
    let isSeparator (m : Mark) : Bool := !m.isLiteral && separators.contains m.char
    let isBlank (m : Mark) : Bool := isSeparator m && (isSpace m.char || m.char == '\n')
    let field := line.takeWhile fun m => !isSeparator m
    let rest := (line.drop field.length).dropWhile isBlank
    let rest := match rest with
      | m :: r => if isSeparator m then r.dropWhile isBlank else m :: r
      | [] => []
    (name, field.map Mark.char) :: distribute separators names rest

def read : BuiltIn := fun args => do
  let rec split : List Octets → Act (Bool × List Octets)
    | ['-', 'r'] :: rest => do return (true, (← split rest).2)
    | ['-', 'p'] :: _ :: rest => split rest
    | ['-', '-'] :: rest => return (false, rest)
    | ('-' :: c :: _) :: _ => abort (Octets.ofText "Illegal option -" ++ [c])
    | rest => return (false, rest)
  let (isRaw, names) ← split args
  if names.isEmpty then abortWith "arg count"
  match names.find? fun name => !isName name with
  | some name => abort (name ++ Octets.ofText ": bad variable name")
  | none => pure ()
  let (text, _) ← input 0
  let (line, rest, isEnded) := logicalLine isRaw text
  leave 0 text rest
  let separators := (← get).separators
  let isBlank (m : Mark) : Bool :=
    !m.isLiteral && separators.contains m.char && (isSpace m.char || m.char == '\n')
  (distribute separators names (line.dropWhile isBlank)).forM fun (name, value) =>
    setVariable name value
  setStatus (if isEnded then 0 else 1)

def echo : BuiltIn := fun args => do
  let (endsLine, words) := match args with
    | ['-', 'n'] :: rest => (false, rest)
    | args => (true, args)
  let rec go : List Octets → Octets
    | [] => if endsLine then ['\n'] else []
    | w :: ws =>
      let (text, isCut) := unescape (w.length + 1) w
      if isCut then text
      else match ws with
        | [] => text ++ go []
        | ws => text ++ ' ' :: go ws
  say (go words)
  succeed

def printf : BuiltIn := fun args => do
  let args := if args.head? = some ['-', '-'] then args.tail else args
  match args with
  | [] => abortWith "usage: printf format [arg ...]"
  | format :: arguments =>
    let made := Format.run format arguments
    made.warnings.forM warn
    match made.fault with
    | some reason => warn reason
    | none => pure ()
    say made.text
    setStatus (if made.fault.isSome then 2 else if made.warnings.isEmpty then 0 else 1)

def test : BuiltIn := fun args => do
  match Script.test (← get).files args with
  | .ok holds => setStatus (if holds then 0 else 1)
  | .error reason => abort reason

def bracket : BuiltIn := fun args => do
  if args.getLast? = some [']'] then test args.dropLast else abortWith "missing ]"

def destination (s : Shell) (path : String) : Option (List String × Bool) :=
  let isFound (p : String) : Option (List String) :=
    match s.files.get p, s.files.locate p with
    | .ok .directory, .ok there => some there
    | _, _ => if p = "/" then some [] else none
  let isPlain := Path.isAbsolute path || path.startsWith "./" || path.startsWith "../" ||
    path == "." || path == ".."
  let looked := if isPlain then [] else
    (Text.splitOn ':' ((s.get "CDPATH").getD [])).map Octets.text
  let elsewhere := looked.findSome? fun dir =>
    if dir = "" then none else isFound (Path.join dir path)
  match elsewhere with
  | some there => some (there, true)
  | none => (isFound path).map fun there => (there, false)

def changeDirectory : BuiltIn := fun args => do
  let (_, operands) ← optionsOf "LP" args
  let s ← get
  let old := (s.get "PWD").getD []
  let target := match operands with
    | [] => (s.get "HOME").getD []
    | ['-'] :: _ => (s.get "OLDPWD").getD old
    | path :: _ => path
  let path := if target.isEmpty then "." else Octets.text target
  match destination s path with
  | none =>
    warn (Octets.ofText "can't cd to " ++ target)
    setStatus 2
  | some (there, isElsewhere) =>
    let here := Octets.ofText (Path.ofNames there)
    set { s with files := { s.files with cwd := there } }
    setVariable "OLDPWD".toList old
    setVariable "PWD".toList here
    modify fun s => { s with bindings := s.bindings.map fun v =>
      if v.name == "OLDPWD".toList || v.name == "PWD".toList then { v with isExported := true }
      else v }
    if isElsewhere || operands.head? == some ['-'] then say (here ++ ['\n'])
    succeed

def printDirectory : BuiltIn := fun _ => do
  say (Octets.ofText (Path.ofNames (← get).files.cwd) ++ ['\n'])
  succeed

def octalText (n : Nat) : Octets :=
  let ds := Nat.toDigits 8 n
  List.replicate (4 - ds.length) '0' ++ ds

def maskText (mask : Nat) : Octets :=
  let group (name : Char) (shift : Nat) : Octets :=
    let bits := mask / shift % 8
    let letter (bit : Nat) (c : Char) : Octets := if bits / bit % 2 = 0 then [c] else []
    name :: '=' :: (letter 4 'r' ++ letter 2 'w' ++ letter 1 'x')
  group 'u' 64 ++ [','] ++ group 'g' 8 ++ [','] ++ group 'o' 1 ++ ['\n']

def umask : BuiltIn := fun args => do
  let (letters, operands) ← optionsOf "S" args
  match operands with
  | [] =>
    let mask := (← get).mask
    say (if letters.contains 'S' then maskText mask else octalText mask ++ ['\n'])
  | word :: _ =>
    if word.all isOctalDigit && !word.isEmpty then
      modify fun s => { s with mask := Arithmetic.digitsValue 8 word % 512 }
    else if word.all Char.isDigit then abort (Octets.ofText "Illegal number: " ++ word)
  succeed

def signalNames : List (String × Nat) :=
  ("EXIT", 0) :: Signal.known.map fun s => (s.name, s.number)

def signal? (word : Octets) : Option (String × Nat) :=
  let text := String.ofList word
  signalNames.find? fun (name, number) =>
    name == text || "SIG" ++ name == text || toString number == text

def setTrap (action : Option Octets) (word : Octets) : Act Unit := do
  match signal? word with
  | none =>
    write 2 (Octets.ofText "trap: " ++ word ++ Octets.ofText ": bad trap\n")
    setStatus 1
  | some (name, _) =>
    modify fun s =>
      let others := s.traps.filter fun t => t.1 != name
      { s with traps := match action with
        | some text => (name, text) :: others
        | none => others }

def trap : BuiltIn := fun args => do
  let args := if args.head? = some ['-', '-'] then args.tail else args
  succeed
  match args with
  | [] =>
    let traps := (← get).traps
    signalNames.forM fun (name, _) => do
      match traps.find? fun t => t.1 == name with
      | some (_, text) =>
        say (Octets.ofText "trap -- " ++ quote text ++ Octets.ofText (" " ++ name ++ "\n"))
      | none => pure ()
  | [word] => setTrap none word
  | action :: words =>
    if action = ['-'] then words.forM (setTrap none)
    else if action.all Char.isDigit && !action.isEmpty then args.forM (setTrap none)
    else words.forM (setTrap (some action))

def getopts : BuiltIn := fun args => do
  match args with
  | allowed :: name :: given =>
    let s ← get
    let words := if given.isEmpty then s.arguments else given
    let index := match s.get "OPTIND" with
      | some t => max (Arithmetic.digitsValue 10 (t.takeWhile Char.isDigit)) 1
      | none => 1
    let word := words[index - 1]?.getD []
    let offset := if s.optionOffset = 0 || word.length ≤ s.optionOffset then 1 else s.optionOffset
    let finish (index : Nat) : Act Unit := do
      setVariable "OPTIND".toList (toString index).toList
      modify fun s => { s with optionOffset := 0 }
      setVariable name ['?']
      setStatus 1
    if word = ['-', '-'] then finish (index + 1)
    else match word, word.drop offset with
      | '-' :: _ :: _, c :: rest =>
        let isQuiet := allowed.head? == some ':'
        let spec := allowed.dropWhile (· != c)
        let (next, offset) := if rest.isEmpty then (index + 1, 0) else (index, offset + 1)
        let step (letter : Char) (argument : Option Octets) (next offset : Nat) : Act Unit := do
          setVariable "OPTIND".toList (toString next).toList
          modify fun s => { s with optionOffset := offset }
          match argument with
          | some a => setVariable "OPTARG".toList a
          | none => modify (·.dropVariable "OPTARG".toList)
          setVariable name [letter]
          succeed
        if c = ':' || spec.isEmpty then
          if isQuiet then step '?' (some [c]) next offset
          else
            write 2 (Octets.ofText "Illegal option -" ++ [c, '\n'])
            step '?' none next offset
        else if spec.tail.head? ≠ some ':' then step c (some []) next offset
        else if !rest.isEmpty then step c (some rest) (index + 1) 0
        else match words[index]? with
          | some a => step c (some a) (index + 2) 0
          | none =>
            if isQuiet then step ':' (some [c]) (index + 1) 0
            else
              write 2 (Octets.ofText "No arg for -" ++ Octets.ofText (String.ofList [c]) ++
                Octets.ofText " option\n")
              step '?' none (index + 1) 0
      | _, _ => finish index
  | _ => abortWith "Usage: getopts optstring var [arg...]"

def wait : BuiltIn := fun args => do
  match args with
  | [] => succeed
  | word :: _ =>
    let number := Arithmetic.digitsValue 10 (word.takeWhile Char.isDigit)
    match (← get).jobs.find? fun j => j.1 == number with
    | some (_, status) => setStatus status
    | none => setStatus 127

def aliasLine (a : Octets × Octets) : Octets :=
  a.1 ++ '=' :: quote a.2 ++ ['\n']

def setAliases : BuiltIn := fun args => do
  succeed
  if args.isEmpty then
    let known := (← get).aliases
    say ((List.range 39).flatMap fun n =>
      (known.filter fun a => Shell.bucket a.1 == n).flatMap aliasLine)
  args.forM fun word => do
    let known := (← get).aliases
    match word with
    | [] => pure ()
    | c :: cs =>
      match Text.cutAt '=' cs with
      | some (name, text) =>
        let name := c :: name
        modify fun s => { s with
          aliases := if known.any fun a => a.1 == name
            then known.map fun a => if a.1 == name then (name, text) else a
            else known ++ [(name, text)] }
      | none =>
        match known.find? fun a => a.1 == word with
        | some a => say (aliasLine a)
        | none =>
          write 2 (Octets.ofText "alias: " ++ word ++ Octets.ofText " not found\n")
          setStatus 1

def dropAliases : BuiltIn := fun args => do
  succeed
  if args.head? = some ['-', 'a'] then modify fun s => { s with aliases := [] }
  else args.forM fun name => do
    let known := (← get).aliases
    if known.any fun a => a.1 == name then
      modify fun s => { s with aliases := known.filter fun a => a.1 != name }
    else
      write 2 (Octets.ofText "unalias: " ++ name ++ Octets.ofText " not found\n")
      setStatus 1

def killUsage : String :=
  "Usage: kill [-s sigspec | -signum | -sigspec] [pid | job]... or\nkill -l [exitstatus]"

def killSignal (word : Octets) : Act Nat := do
  match signal? word with
  | some (_, number) => return number
  | none => abort (Octets.ofText "invalid signal number or name: " ++ word)

def sendSignal (number : Nat) (targets : List Octets) : Act Unit := do
  if targets.isEmpty then abortWith killUsage
  succeed
  targets.forM fun target => do
    if target = (toString processNumber).toList then
      match Signal.ofNumber? number with
      | none => pure ()
      | some signal =>
        let isTrapped := (← get).traps.any fun t => t.1 == signal.name
        if isTrapped && signal.number ≠ 9 then
          modify fun s => { s with pending := s.pending ++ [signal.name] }
        else if !signal.isHarmless then
          modify fun s => { s with killer := some signal, status := 128 + number }
          throw .ends
    else if !target.all (fun c => c.isDigit || c == '-') then
      abort (Octets.ofText "Illegal number: " ++ target)
    else
      warn (Octets.ofText "No such process\n")
      setStatus 1

def allSignals : List String :=
  let beyond (sign : String) (n : Nat) : String := if n = 0 then "" else sign ++ toString n
  let named (n : Nat) : String :=
    if n = 0 || n = 16 || n = 32 || n = 33 then toString n
    else if n < 32 then ((Signal.ofNumber? n).map (·.name)).getD ""
    else if n < 50 then "RTMIN" ++ beyond "+" (n - 34)
    else "RTMAX" ++ beyond "-" (64 - n)
  (List.range 65).map named

def kill : BuiltIn := fun args => do
  match args with
  | [] => abortWith killUsage
  | [['-', 'l']] =>
    say (Octets.ofText (String.join (allSignals.map (· ++ "\n"))))
    succeed
  | ['-', 'l'] :: word :: _ =>
    let number := Arithmetic.digitsValue 10 (word.takeWhile Char.isDigit) % 128
    match signalNames.find? fun n => n.2 == number with
    | some (name, _) => say (Octets.ofText (name ++ "\n"))
    | none => pure ()
    succeed
  | ['-', 's'] :: word :: targets => sendSignal (← killSignal word) targets
  | ('-' :: c :: cs) :: targets =>
    match signal? (c :: cs) with
    | some (_, number) => sendSignal number targets
    | none => abort (Octets.ofText "Illegal option -" ++ [c])
  | targets => sendSignal 15 targets

end BuiltIn

def builtIn? : String → Option BuiltIn
  | ":" | "true" => some fun _ => BuiltIn.succeed
  | "false" => some fun _ => setStatus 1
  | "break" => some (BuiltIn.leaveLoops .breaks)
  | "continue" => some (BuiltIn.leaveLoops .continues)
  | "exit" => some BuiltIn.exit
  | "return" => some BuiltIn.leaveFunction
  | "export" => some BuiltIn.markExported
  | "readonly" => some BuiltIn.markReadonly
  | "local" => some BuiltIn.makeLocal
  | "unset" => some BuiltIn.unset
  | "shift" => some BuiltIn.shift
  | "set" => some BuiltIn.setShell
  | "read" => some BuiltIn.read
  | "echo" => some BuiltIn.echo
  | "printf" => some BuiltIn.printf
  | "test" => some BuiltIn.test
  | "[" => some BuiltIn.bracket
  | "cd" | "chdir" => some BuiltIn.changeDirectory
  | "pwd" => some BuiltIn.printDirectory
  | "umask" => some BuiltIn.umask
  | "trap" => some BuiltIn.trap
  | "getopts" => some BuiltIn.getopts
  | "wait" => some BuiltIn.wait
  | "kill" => some BuiltIn.kill
  | "alias" => some BuiltIn.setAliases
  | "unalias" => some BuiltIn.dropAliases
  | "jobs" | "ulimit" | "times" | "bg" | "fg" =>
    some fun _ => BuiltIn.succeed
  | _ => none

end SymbolDocs.Script
