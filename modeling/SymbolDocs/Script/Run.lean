import SymbolDocs.Script.Awk.Run
import SymbolDocs.Script.BuiltIn
import SymbolDocs.Script.Executable
import SymbolDocs.Script.FindFiles
import SymbolDocs.Script.Grammar
import SymbolDocs.Script.Redirect

namespace SymbolDocs.Script

open Text (Octets)

abbrev Runner := Command → Act Unit

def endAs (result : Except Interruption Unit) : Act Unit :=
  match result with
  | .ok () => pure ()
  | .error interruption => throw interruption

def asked (act : Act Unit) : Act Unit := do
  let isTested := (← get).isTested
  modify fun s => { s with isTested := true }
  let result ← observe act
  modify fun s => { s with isTested }
  endAs result

def mindFailure : Act Unit := do
  let s ← get
  if s.status ≠ 0 && s.options.endsOnFailure && !s.isTested then throw .ends

def Shell.searchPath (s : Shell) : String :=
  match s.get "PATH" with
  | some path => Octets.text path
  | none => "/usr/local/sbin:/usr/local/bin:/usr/sbin:/usr/bin:/sbin:/bin"

def runReason : OsError → String
  | .notFound | .notADirectory => "not found"
  | e => e.reason

def Shell.renewed (s : Shell) (name : Octets) : Shell :=
  let seen := s.bindings.filter fun v => v.isExported && v.value.isSome
  let bindings := seen.map fun v => { v with isReadonly := false }
  let renewed : Shell :=
    { files := s.files, bindings, name, arguments := [], streams := s.streams,
      channels := s.channels, documents := s.documents, mask := s.mask }
  renewed.withOwnVariables

/-- What a copy of a shell changed of itself is forgotten; the files and the streams are shared. -/
def Shell.afterCopy (outer inner : Shell) : Shell :=
  { outer with
    files := { inner.files with cwd := outer.files.cwd }
    streams := inner.streams.extract 0 outer.streams.size
    documents := inner.documents
    status := inner.status
    killer := inner.killer }

section

variable (run : Runner)

def runSource : (fuel : Nat) → Source → Act Unit
  | 0, _ => pure ()
  | fuel + 1, source => do
    let s ← get
    match nextLine { source with documents := s.documents, aliases := s.aliases } with
    | .error fault =>
      warnAt fault.line (Octets.ofText ("Syntax error: " ++ fault.reason))
      setStatus 2
      throw .fails
    | .ok (line, rest) => do
      modify fun s => { s with documents := rest.documents, readTo := rest.line }
      if s.options.echoes then
        write 2 (source.rest.take (source.rest.length - rest.rest.length))
      match line with
      | none => pure ()
      | some commands =>
        commands.forM run
        runSource fuel rest

def runText (text : Octets) : Act Unit := do
  let readTo := (← get).readTo
  let result ← observe (runSource run (text.length + 2) { rest := text })
  modify fun s => { s with readTo }
  endAs result

def atEnd : Act Unit := do
  let s ← get
  match s.killer, s.traps.find? fun t => t.1 == "EXIT" with
  | some _, _ | none, none => pure ()
  | none, some (_, text) =>
    set { s with
      traps := s.traps.filter fun t => t.1 != "EXIT"
      isTested := false
      command := none }
    match ← observe (runText run text) with
    | .error .ends => pure ()
    | _ => setStatus s.status

def answerEvents : Act Unit := do
  let s ← get
  if s.pending.isEmpty then return
  set { s with pending := [] }
  s.pending.forM fun name => do
    match s.traps.find? fun t => t.1 == name with
    | some (_, text) =>
      let status := (← get).status
      runText run text
      setStatus status
    | none => pure ()

def inCopy (input : Option Octets) (isCaptured : Bool) (act : Act Unit) : Act Octets := do
  let outer ← get
  let s := match input with
    | none => outer
    | some text =>
      let (number, s) := outer.addStream (.source text)
      s.setChannel 0 number
  let (number, s) := s.addStream (.sink [] 0)
  let s := if isCaptured then s.setChannel 1 number else s
  set { s with traps := [], pending := [] }
  let _ ← observe act
  let _ ← observe (atEnd run)
  let text := (← get).written number
  modify outer.afterCopy
  if (← get).killer.isSome then throw .ends
  return text

def captured : Capture := fun body => do
  let status := (← get).status
  let text ← inCopy run none true do
    modify fun s => { s with isTested := false }
    body.forM run
  modify fun s => { s with outputStatus := some s.status, status }
  return text

def runStages (input : Option Octets) : List Command → Act Unit
  | [] => pure ()
  | [last] => do
    let _ ← inCopy run input false (run last)
  | stage :: stages => do
    let text ← inCopy run input true (run stage)
    runStages (some text) stages

/-- Starts a command and goes on at once. It is carried out right away all the same. -/
def runAside (body : Command) : Act Unit := do
  let _ ← inCopy run (some []) false (run body)
  modify fun s =>
    let number := processNumber + s.jobs.length + 1
    { s with jobs := (number, s.status) :: s.jobs, status := 0 }

def runTool (name : Octets) (tool : Tool) (args : List Octets) : Act Unit := do
  let s ← get
  let (text, isSeekable) ← input 0
  let desk : Desk :=
    { tool := Octets.text name, input := text, isSeekable, files := s.files,
      environment := s.environment }
  let (_, desk) := (tool args).run desk
  leave 0 text desk.input
  modify fun s => { s with files := desk.files }
  let put ← observe (desk.written.reverse.forM fun (isComplaint, text) =>
    write (if isComplaint then 2 else 1) text)
  match put with
  | .ok () => setStatus desk.status
  | .error _ => pure ()

structure Invocation where
  isText : Bool := false
  readsInput : Bool := false
  operands : List Octets := []

def invocation (v : Invocation) : (fuel : Nat) → List Octets → Act Invocation
  | 0, args => return { v with operands := args }
  | fuel + 1, args =>
    let switched (isOn : Bool) (letters : List Char) (rest : List Octets) : Act Invocation := do
      (letters.filter fun c => !"cso".toList.contains c).forM (BuiltIn.switchLetter isOn)
      let v := { v with
        isText := v.isText || letters.contains 'c'
        readsInput := v.readsInput || letters.contains 's' }
      if letters.contains 'o' then
        match rest with
        | name :: rest =>
          let _ ← BuiltIn.setOptions [[if isOn then '-' else '+', 'o'], name]
          invocation v fuel rest
        | [] => return v
      else invocation v fuel rest
    match args with
    | ['-', '-'] :: rest | ['-'] :: rest => return { v with operands := rest }
    | ('-' :: letters) :: rest => switched true letters rest
    | ('+' :: letters) :: rest => switched false letters rest
    | args => return { v with operands := args }

def runShell (args : List Octets) : Act Unit := do
  let v ← invocation {} (args.length + 1) args
  match v.isText, v.readsInput, v.operands with
  | true, _, [] => abortWith "-c requires an argument"
  | true, _, text :: more =>
    modify fun s => { s with name := more.head?.getD s.name, arguments := more.drop 1 }
    runText run text
  | false, false, file :: more =>
    let s ← get
    match s.files.get (Octets.text file) with
    | .error e =>
      abort (Octets.ofText "cannot open " ++ file ++ Octets.ofText (": " ++ openReason e))
    | .ok entry =>
      set { s with name := file, arguments := more }
      match entry with
      | .file content _ => runText run (Octets.ofBytes content)
      | .directory => pure ()
  | false, _, arguments =>
    modify fun s => { s with arguments }
    let (text, _) ← input 0
    leave 0 text []
    runText run text

def startShell (name : Octets) (args : List Octets) : Act Unit := do
  let _ ← observe (inCopy run none false do
    modify (·.renewed name)
    runShell run args)

def runRunner (start : Start) (tool : String) (args : List Octets) : Act Unit := do
  let _ ← observe (inCopy run none false do
    modify fun s => { s with bindings := s.bindings.filter (·.isExported) }
    match tool with
    | "awk" | "mawk" => Awk.tool start (Octets.ofText tool) args
    | "env" => Wrapper.env start args
    | "xargs" => Wrapper.xargs start args
    | "find" => FindFiles.run start args
    | tool => Wrapper.plain start tool args)

def startAt (isLenient : Bool) : (fuel : Nat) → (path : String) → Executable → (name : Octets) →
    List Octets → Act (Except OsError Unit)
  | 0, _, _, _, _ => return .error .notExecutable
  | fuel + 1, path, e, name, args => do
    let done (act : Act Unit) : Act (Except OsError Unit) := do
      act
      return .ok ()
    match e with
    | .tool tool => done (runTool name tool args)
    | .shell => done (startShell run name args)
    | .runner tool =>
      let start : Start := fun command => do
        match command with
        | [] => return .error .notFound
        | name :: args =>
          let s ← get
          match Executable.find s.files s.searchPath (Octets.text name) with
          | .error e => return .error e
          | .ok (path, e) => startAt true fuel path e name args
      done (runRunner run start tool args)
    | .file content =>
      let place := Octets.ofText path
      match Executable.interpreter? content with
      | none =>
        if isLenient then done (startShell run "/bin/sh".toList (place :: args))
        else return .error .notExecutable
      | some (interpreter, before) =>
        match Executable.atPath (← get).files (Octets.text interpreter) with
        | .error e => return .error e
        | .ok e =>
          startAt isLenient fuel (Octets.text interpreter) e interpreter (before ++ place :: args)

def maxStarts : Nat := 64

def remember (name : Octets) : Act Unit := do
  let s ← get
  if !name.contains '/' && !s.remembered.contains name then
    set { s with remembered := name :: s.remembered }

def mourn : Act Unit := do
  let s ← get
  match s.killer with
  | none => pure ()
  | some signal =>
    set { s with killer := none, status := 128 + signal.number }
    if !signal.isQuiet then write 2 (Octets.ofText (signal.notice ++ "\n"))

def runProgram (name : Octets) (args : List Octets) : Act Unit := do
  let refuse (status : Nat) (e : OsError) : Act Unit := do
    warn (name ++ Octets.ofText (": " ++ runReason e))
    setStatus status
  let s ← get
  match Executable.find s.files s.searchPath (Octets.text name) with
  | .error e =>
    let isMissing := e == .notFound || e == .notADirectory || e == .nameTooLong
    refuse (if isMissing || !name.contains '/' then 127 else 126) e
  | .ok (path, e) =>
    remember name
    match ← startAt run true maxStarts path e name args with
    | .ok () => mourn
    | .error e => refuse (if e == .notFound then 127 else 126) e

def evaluate (args : List Octets) : Act Unit := do
  let text := joinWith [' '] args
  if text.all Arithmetic.isBlank then setStatus 0 else runText run text

def sourcePath? (s : Shell) (name : Octets) : Option Octets :=
  if name.contains '/' then some name
  else
    let paths := Executable.candidates s.searchPath (Octets.text name)
    (paths.find? s.files.isFile).map Octets.ofText

def include_ (args : List Octets) : Act Unit := do
  match args with
  | [] => setStatus 0
  | name :: _ =>
    let s ← get
    match sourcePath? s name with
    | none => abort (name ++ Octets.ofText ": not found")
    | some path =>
      match s.files.readBytes (Octets.text path) with
      | .error e =>
        if e = .isADirectory then setStatus 0
        else abort (Octets.ofText "cannot open " ++ path ++ Octets.ofText (": " ++ openReason e))
      | .ok content =>
        set { s with command := some path, isTested := false }
        let text := Octets.ofBytes content
        if text.all Arithmetic.isBlank then setStatus 0
        let result ← observe (runText run text)
        modify fun t => { t with isTested := s.isTested }
        match result with
        | .error .returns => pure ()
        | result => endAs result

def replaceShell (args : List Octets) : Act Unit := do
  match if args.head? = some ['-', '-'] then args.tail else args with
  | [] => setStatus 0
  | name :: args =>
    let s ← get
    let refuse (e : OsError) : Act Unit := do
      warn (name ++ Octets.ofText (": " ++ runReason e))
      setStatus (if e == .notFound || e == .notADirectory then 127 else 126)
      throw .ends
    match Executable.find s.files s.searchPath (Octets.text name) with
    | .error e => refuse e
    | .ok (path, e) =>
      match ← startAt run true maxStarts path e name args with
      | .error e => refuse e
      | .ok () =>
        modify fun s => { s with traps := [] }
        throw .ends

inductive Meaning where
  | keyword
  | text (text : Octets)
  | function (body : Command)
  | own (isSpecial : Bool)
  | program (path : String) (isRemembered : Bool)
  | unknown

def nestingNames : List String := [".", "command", "eval", "exec", "hash", "type"]

def isOwn (name : Octets) : Bool :=
  let text := String.ofList name
  (builtIn? text).isSome || nestingNames.contains text

def isSpecial (name : Octets) : Bool :=
  specialNames.contains (String.ofList name)

def meaningOf (s : Shell) (name : Octets) : Meaning :=
  if keywords.contains (String.ofList name) then .keyword
  else match s.aliases.find? (fun a => a.1 == name), s.functions.find? fun f => f.1 == name with
    | some (_, text), _ => .text text
    | none, some (_, body) => .function body
    | none, none =>
      if isOwn name then .own (isSpecial name)
      else match Executable.find s.files s.searchPath (Octets.text name) with
        | .ok (path, _) => .program path (s.remembered.contains name)
        | .error _ => .unknown

def describe (isVerbose : Bool) (name : Octets) : Act Unit := do
  let s ← get
  let say (words : String) : Act Unit :=
    write 1 (name ++ Octets.ofText ((if isVerbose then words else "") ++ "\n"))
  match meaningOf s name with
  | .keyword => say " is a shell keyword"
  | .text text =>
    if isVerbose then write 1 (name ++ Octets.ofText " is an alias for " ++ text ++ ['\n'])
    else write 1 (Octets.ofText "alias " ++ BuiltIn.aliasLine (name, text))
  | .function _ => say " is a shell function"
  | .own true => say " is a special shell builtin"
  | .own false => say " is a shell builtin"
  | .program path isRemembered =>
    let how := if isRemembered then " is a tracked alias for " else " is "
    if isVerbose then write 1 (name ++ Octets.ofText (how ++ path ++ "\n"))
    else write 1 (Octets.ofText (path ++ "\n"))
    remember name
  | .unknown =>
    if isVerbose then say ": not found"
    setStatus 127

def lookUp (names : List Octets) : Act Unit := do
  setStatus 0
  let s ← get
  let pathOf (name : Octets) : Option String :=
    match Executable.find s.files s.searchPath (Octets.text name) with
    | .ok (path, _) => some path
    | .error _ => none
  if names.isEmpty then
    write 1 (s.remembered.reverse.flatMap fun name =>
      Octets.ofText (((pathOf name).getD "") ++ "\n"))
  else if names.head? = some ['-', 'r'] then modify fun s => { s with remembered := [] }
  else names.forM fun name => do
    if isOwn name then pure ()
    else if (pathOf name).isSome then remember name
    else
      warn (name ++ Octets.ofText ": not found")
      setStatus 1

def describeAll (isVerbose : Bool) (names : List Octets) : Act Unit := do
  setStatus 0
  names.forM (describe isVerbose)

def maxCalls : Nat := 1000

def callFunction (body : Command) (arguments : List Octets) : Act Unit := do
  let outer ← get
  if maxCalls ≤ outer.frames.length then
    let limit := maxCalls
    abortWith s!"Maximum function recursion depth ({limit}) reached"
  set { outer with arguments, loops := 0, frames := [] :: outer.frames, optionOffset := 0 }
  let result ← observe (run body)
  modify fun s =>
    let s := (s.frames.head?.getD []).foldl (fun s (name, old) => s.restoreVariable name old) s
    { s with
      arguments := outer.arguments
      loops := outer.loops
      frames := outer.frames
      optionOffset := outer.optionOffset }
  match result with
  | .error .returns => pure ()
  | result => endAs result

def asOwn (name : Octets) (isSpecial : Bool) (act : Act Unit) : Act Unit := do
  let command := (← get).command
  modify fun s => { s with command := some name }
  let result ← observe act
  modify fun s => { s with command }
  match result with
  | .error .fails => if isSpecial then throw .fails
  | result => endAs result

/-- Carries out words as a command. Functions count unless another command asks for this one. -/
def perform (countsFunctions isSpecial : Bool) : (fuel : Nat) → List Octets → Act Unit
  | 0, _ => pure ()
  | _, [] => pure ()
  | fuel + 1, name :: args => do
    let s ← get
    match countsFunctions, s.functions.find? fun f => f.1 == name with
    | true, some (_, body) => callFunction run body args
    | _, _ =>
      let own := asOwn name isSpecial
      match String.ofList name with
      | "." => own (include_ run args)
      | "eval" => own (evaluate run args)
      | "exec" => own (replaceShell run args)
      | "type" => own (describeAll true args)
      | "hash" => own (lookUp args)
      | "command" =>
        let flags := args.takeWhile fun w => w.head? == some '-' && 1 < w.length && w != ['-', '-']
        let rest := args.drop flags.length
        let rest := if rest.head? = some ['-', '-'] then rest.tail else rest
        if flags.any (·.contains 'v') then own (describeAll false (rest.take 1))
        else if flags.any (·.contains 'V') then own (describeAll true (rest.take 1))
        else if rest.isEmpty then setStatus 0
        else perform false isSpecial fuel rest
      | text => match builtIn? text with
        | some act => own (act args)
        | none => runProgram run name args

def takesAssignments (args : List Octets) : Bool :=
  match args.dropWhile fun w => w == "command".toList with
  | name :: _ => ["export", "readonly", "local", "alias"].contains (String.ofList name)
  | [] => false

def expandArguments (args : List Octets) : List Word → Act (List Octets)
  | [] => return args
  | w :: ws => do
    let more ← match takesAssignments args, w.assignment? with
      | true, some (name, value) => do
        pure [name ++ '=' :: (← expandValue (captured run) value)]
      | _, _ => expandFields (captured run) w
    expandArguments (args ++ more) ws

def assignAll (isExported : Bool) : List (Octets × Word) → Act (List Octets)
  | [] => return []
  | (name, w) :: rest => do
    let value ← expandValue (captured run) w
    setVariable name value
    if isExported then
      modify fun s => { s with bindings := s.bindings.map fun v =>
        if v.name == name then { v with isExported := true } else v }
    return (name ++ '=' :: value) :: (← assignAll isExported rest)

def trace (stream : Option Nat) (words : List Octets) : Act Unit := do
  let s ← get
  match s.options.traces, stream with
  | true, some number =>
    let mark := (s.get "PS4").getD ['+', ' ']
    writeStream number (mark ++ joinWith [' '] words ++ ['\n'])
  | _, _ => pure ()

def runSimple (line : Nat) (assignments : List (Octets × Word)) (words : List Word)
    (redirections : List Redirection) : Act Unit := do
  modify fun s => { s with line, outputStatus := none }
  let args ← expandArguments run [] words
  let name := args.head?.getD []
  let isFunction := (← get).functions.any fun f => f.1 == name
  let special := !args.isEmpty && !isFunction && isSpecial name
  let staysRedirected := (args.dropWhile fun w => w == "command".toList).head? = some "exec".toList
  let openings ← redirections.mapM (expandRedirection (captured run))
  let s ← get
  let saved := s.saved openings
  let errors := s.stream? 2
  match ← observe (openings.forM Opening.apply) with
  | .error _ =>
    modify (·.restored saved)
    if special then throw .fails
  | .ok () =>
    let olds := if args.isEmpty || special then [] else
      assignments.map fun (name, _) => (name, s.named? name)
    let result ← observe do
      let isExported := !olds.isEmpty || (name == "exec".toList && 1 < args.length)
      let assigned ← assignAll run isExported assignments
      trace errors (assigned ++ args)
      modify fun s => { s with line }
      if args.isEmpty then
        modify fun s => { s with status := s.outputStatus.getD 0 }
      else perform run true special (args.length + 1) args
    modify fun s => olds.reverse.foldl (fun s (name, old) => s.restoreVariable name old) s
    if !staysRedirected then modify (·.restored saved)
    endAs result
  answerEvents run
  mindFailure

def runBody (body : Act Unit) : Act Bool := do
  match ← observe body with
  | .ok () => return true
  | .error (.breaks n) => if n ≤ 1 then return false else throw (.breaks (n - 1))
  | .error (.continues n) => if n ≤ 1 then return true else throw (.continues (n - 1))
  | .error interruption => throw interruption

def repeatWhile (goal : Bool) (condition body : Act Unit) : (fuel : Nat) → (status : Nat) → Act Unit
  | 0, status => setStatus status
  | fuel + 1, status => do
    if ← runBody (asked condition) then
      if ((← get).status == 0) == goal then
        if ← runBody body then
          repeatWhile goal condition body fuel (← get).status
      else setStatus status

def maxRepetitions : Nat := 0x1000000

def repeatFor (name : Octets) (body : Act Unit) : List Octets → Act Unit
  | [] => pure ()
  | item :: items => do
    setVariable name item
    if ← runBody body then repeatFor name body items

def inLoop (act : Act Unit) : Act Unit := do
  modify fun s => { s with loops := s.loops + 1 }
  let result ← observe act
  modify fun s => { s with loops := s.loops - 1 }
  endAs result

def fitsAny (subject : Octets) : List Word → Act Bool
  | [] => return false
  | p :: ps => do
    let marks ← expandPattern (captured run) p
    if Glob.fits (Glob.items marks) subject then return true else fitsAny subject ps

def selectClause (subject : Octets) : List (List Word × List Command) → Act Unit
  | [] => setStatus 0
  | (patterns, body) :: rest => do
    if ← fitsAny run subject patterns then
      if body.isEmpty then setStatus 0 else body.forM run
    else selectClause subject rest

/-- One step of carrying out a command. -/
def runCommand : Command → Act Unit
  | .simple line assignments words redirections =>
    runSimple run line assignments words redirections
  | .redirected line body redirections => do
    modify fun s => { s with line }
    let openings ← redirections.mapM (expandRedirection (captured run))
    redirecting openings mindFailure (run body)
  | .group body => body.forM run
  | .subshell line body redirections => do
    modify fun s => { s with line }
    let openings ← redirections.mapM (expandRedirection (captured run))
    let _ ← inCopy run none false (redirecting openings (throw .fails) (body.forM run))
    mindFailure
  | .pipeline stages => do
    runStages run none stages
    mindFailure
  | .background body => runAside run body
  | .not body => do
    asked (run body)
    modify fun s => { s with status := if s.status = 0 then 1 else 0 }
  | .and first second => do
    asked (run first)
    if (← get).status = 0 then run second
  | .or first second => do
    asked (run first)
    if (← get).status ≠ 0 then run second
  | .choice condition yes no => do
    asked (condition.forM run)
    if (← get).status = 0 then yes.forM run
    else if no.isEmpty then setStatus 0
    else no.forM run
  | .loop goal condition body =>
    inLoop (repeatWhile goal (condition.forM run) (body.forM run) maxRepetitions 0)
  | .each line name items body => do
    modify fun s => { s with line }
    let items ← match items with
      | none => pure (← get).arguments
      | some words => do pure (← words.mapM (expandFields (captured run))).flatten
    setStatus 0
    inLoop (repeatFor name (body.forM run) items)
  | .select line subject clauses => do
    modify fun s => { s with line }
    selectClause run (← expandWhole (captured run) subject) clauses
  | .define name body => modify fun s =>
    { s with
      functions := (name, body) :: s.functions.filter fun f => f.1 != name
      status := 0 }

end

def runNested : (fuel : Nat) → Runner
  | 0, _ => do
    modify fun s => { s with killer := Signal.ofWord? "SEGV", status := 139 }
    throw .ends
  | fuel + 1, c => do
    if !(← get).options.onlyReads then runCommand (runNested fuel) c

def maxDepth : Nat := 12000

def launch (path : String) (e : Executable) (name : Octets) (args : List Octets) (s : Shell) :
    Except OsError Shell :=
  match startAt (runNested maxDepth) false maxStarts path e name args s with
  | (.ok (.error e), _) => .error e
  | (_, s) => .ok s

end SymbolDocs.Script
