import SymbolDocs.Script.Shell
import SymbolDocs.Script.Tool.Basic

namespace SymbolDocs.Script

open Text (Octets)

abbrev Start := List Octets → Act (Except OsError Unit)

namespace Wrapper

def complain (tool : String) (status : Nat) (message : Octets) : Act Unit := do
  write 2 (Octets.ofText (tool ++ ": ") ++ message ++ ['\n'])
  setStatus status

def startStatus : OsError → Nat
  | .notFound | .notADirectory => 127
  | _ => 126

def startFor (start : Start) (tool : String) (command : List Octets) : Act Unit := do
  match ← start command with
  | .ok () => pure ()
  | .error e =>
    let name := command.head?.getD []
    complain tool (startStatus e) (quoted name ++ Octets.ofText (": " ++ e.reason))

def setGiven : List Octets → Act (List Octets)
  | word :: rest => do
    match Text.cutAt '=' word with
    | some (name, value) =>
      modify (·.putVariable { name, value := some value, isExported := true })
      setGiven rest
    | none => return word :: rest
  | [] => return []

def envOptions : List Octets → Act (List Octets)
  | ['-', 'u'] :: name :: rest => do
    modify (·.dropVariable name)
    envOptions rest
  | ['-', 'i'] :: rest | ['-'] :: rest => do
    modify fun s => { s with bindings := [] }
    envOptions rest
  | ['-', '-'] :: rest => return rest
  | rest => return rest

def env (start : Start) (args : List Octets) : Act Unit := do
  match ← setGiven (← envOptions args) with
  | [] =>
    write 1 ((← get).exported.flatMap fun (name, value) => name ++ '=' :: value ++ ['\n'])
    setStatus 0
  | command => startFor start "env" command

structure ArgumentOptions where
  perCommand : Option Nat := none
  perLine : Option Nat := none
  replaced : Option Octets := none
  separator : Option Char := none
  needsInput : Bool := false
  traces : Bool := false

def argumentOptions (o : ArgumentOptions) : (fuel : Nat) → List Octets →
    ArgumentOptions × List Octets
  | 0, ws => (o, ws)
  | fuel + 1, ws =>
    let separatorOf (word : Octets) : Char := match word with
      | '\\' :: 'n' :: _ => '\n'
      | '\\' :: 't' :: _ => '\t'
      | '\\' :: '0' :: _ => Char.ofNat 0
      | c :: _ => c
      | [] => '\n'
    match ws with
    | ['-', '-'] :: rest => (o, rest)
    | ['-', '0'] :: rest => argumentOptions { o with separator := some (Char.ofNat 0) } fuel rest
    | ['-', 'r'] :: rest => argumentOptions { o with needsInput := true } fuel rest
    | ['-', 't'] :: rest => argumentOptions { o with traces := true } fuel rest
    | ['-', 'n'] :: n :: rest => argumentOptions { o with perCommand := natural? n } fuel rest
    | ['-', 'L'] :: n :: rest => argumentOptions { o with perLine := natural? n } fuel rest
    | ['-', 'I'] :: r :: rest => argumentOptions { o with replaced := some r } fuel rest
    | ['-', 'd'] :: d :: rest =>
      argumentOptions { o with separator := some (separatorOf d) } fuel rest
    | ['-', 'P'] :: _ :: rest => argumentOptions o fuel rest
    | ('-' :: 'n' :: n) :: rest => argumentOptions { o with perCommand := natural? n } fuel rest
    | ('-' :: 'L' :: n) :: rest => argumentOptions { o with perLine := natural? n } fuel rest
    | ('-' :: 'P' :: _) :: rest => argumentOptions o fuel rest
    | ('-' :: 'I' :: r) :: rest => argumentOptions { o with replaced := some r } fuel rest
    | ('-' :: 'd' :: d) :: rest =>
      argumentOptions { o with separator := some (separatorOf d) } fuel rest
    | ws => (o, ws)

def quotedWords : (fuel : Nat) → (current : Option Octets) → List Char →
    Except Char (List Octets)
  | 0, _, _ => .ok []
  | _ + 1, current, [] => .ok (current.toList.map List.reverse)
  | fuel + 1, current, c :: r =>
    if c = ' ' ∨ c = '\t' ∨ c = '\n' then do
      let rest ← quotedWords fuel none r
      .ok (current.toList.map List.reverse ++ rest)
    else if c = '\'' ∨ c = '"' then
      let inside := r.takeWhile fun d => d != c && d != '\n'
      match r.drop inside.length with
      | d :: after =>
        if d = c then quotedWords fuel (some (inside.reverse ++ current.getD [])) after
        else .error c
      | [] => .error c
    else if c = '\\' then match r with
      | d :: after => quotedWords fuel (some (d :: current.getD [])) after
      | [] => quotedWords fuel current []
    else quotedWords fuel (some (c :: current.getD [])) r

def chunks (n : Nat) : (fuel : Nat) → List α → List (List α)
  | 0, _ => []
  | fuel + 1, items =>
    if items.isEmpty then [] else items.take n :: chunks n fuel (items.drop n)

def replaceAll (old new : Octets) : (fuel : Nat) → Octets → Octets
  | 0, t => t
  | _ + 1, [] => []
  | fuel + 1, c :: r =>
    match if old.isEmpty then none else Text.dropStart? old (c :: r) with
    | some rest => new ++ replaceAll old new fuel rest
    | none => c :: replaceAll old new fuel r

def itemsOf (o : ArgumentOptions) (text : Octets) : Except Char (List Octets) :=
  match o.separator, o.replaced with
  | some d, _ =>
    let items := Text.splitOn d text
    .ok (if items.getLast? = some [] then items.dropLast else items)
  | none, some _ =>
    .ok (((lines text).map fun l => l.dropWhile fun c => c == ' ' || c == '\t').filter
      fun l => !l.isEmpty)
  | none, none => quotedWords (text.length + 1) none text

def commandsFor (o : ArgumentOptions) (command : List Octets) (text : Octets)
    (items : List Octets) : List (List Octets) :=
  match o.replaced, o.perLine, o.perCommand with
  | some r, _, _ =>
    items.map fun item => command.map fun w => replaceAll r item (w.length + 1) w
  | none, some n, _ =>
    let perLine := ((lines text).filter fun l => !l.all isSpace).filterMap fun l =>
      (quotedWords (l.length + 1) none l).toOption
    (chunks n (perLine.length + 1) perLine).map fun ls => command ++ ls.flatten
  | none, none, some n => (chunks n (items.length + 1) items).map fun ws => command ++ ws
  | none, none, none =>
    if items.isEmpty && o.needsInput then [] else [command ++ items]

def runEach (start : Start) (traces : Bool) (worst : Nat) : List (List Octets) → Act Nat
  | [] => return worst
  | command :: rest => do
    if traces then write 2 ((command.intersperse [' ']).flatten ++ ['\n'])
    match ← start command with
    | .error e =>
      let name := command.head?.getD []
      complain "xargs" (startStatus e) (name ++ Octets.ofText (": " ++ e.reason))
      return startStatus e
    | .ok () =>
      let status := (← get).status
      if status = 255 then
        let name := command.head?.getD []
        complain "xargs" 124 (name ++ Octets.ofText ": exited with status 255; aborting")
        return 124
      else runEach start traces (if status = 0 then worst else 123) rest

def xargs (start : Start) (args : List Octets) : Act Unit := do
  let (o, command) := argumentOptions {} (args.length + 1) args
  let command := if command.isEmpty then ["echo".toList] else command
  let (text, _) ← input 0
  leave 0 text []
  match itemsOf o text with
  | .error quote =>
    let kind := if quote = '"' then "double" else "single"
    complain "xargs" 1 (Octets.ofText ("unmatched " ++ kind ++ " quote; by default quotes are " ++
      "special to xargs unless you use the -0 option"))
  | .ok items =>
    let s ← get
    let (number, s) := s.addStream .nowhere
    set (s.setChannel 0 number)
    setStatus (← runEach start o.traces 0 (commandsFor o command text items))

def commandBehind (withValue : List Char) : List Octets → List Octets
  | ['-', '-'] :: rest => rest
  | ['-', c] :: value :: rest =>
    if withValue.contains c then commandBehind withValue rest
    else commandBehind withValue (value :: rest)
  | ('-' :: _) :: rest => commandBehind withValue rest
  | rest => rest

def plain (start : Start) (tool : String) (args : List Octets) : Act Unit := do
  let command := match tool with
    | "timeout" => (commandBehind ['s', 'k'] args).drop 1
    | _ => commandBehind ['n', 'o', 'i', 'e'] args
  match command with
  | [] => complain tool 125 (Octets.ofText "missing operand")
  | command => startFor start tool command

end Wrapper

end SymbolDocs.Script
