import SymbolDocs.Text.Cut
/-!
The arguments of the program. A level is the program itself or one of its commands; the options for
logging and configuration can stand on either. An option that takes the next argument as its value
is settled only when something else is met, so its faults are reported then.
-/

namespace SymbolDocs

inductive Command where
  | extract
  | collect (identifiers : List String) (xmlDir : Option String) (isPretty : Bool)
  | list (xmlDir : Option String)
  deriving DecidableEq, Repr

structure Invocation where
  command : Command
  quiet : Bool
  verbose : Bool
  config : Option String
  deriving DecidableEq, Repr

namespace CommandLine

inductive Refusal where
  | help
  | version
  | nothingAsked
  | missingCommand
  | unknownCommand
  | unknownArgument
  | missingArgument
  | conflict
  | invalidValue
  | surplusValue
  deriving DecidableEq, Repr

inductive Level where
  | program
  | extract
  | collect
  | list
  deriving DecidableEq, Repr

inductive Flag where
  | quiet
  | verbose
  | pretty
  | help
  | version
  deriving DecidableEq, Repr

inductive Setting where
  | config
  | xmlDir
  deriving DecidableEq, Repr

inductive Opt where
  | flag (f : Flag)
  | setting (s : Setting)
  deriving DecidableEq, Repr

def longOption? (level : Level) : String → Option Opt
  | "quiet" => some (.flag .quiet)
  | "verbose" => some (.flag .verbose)
  | "help" => some (.flag .help)
  | "config" => some (.setting .config)
  | "version" => if level = .program then some (.flag .version) else none
  | "pretty" => if level = .collect then some (.flag .pretty) else none
  | "xml-dir" => if level = .collect ∨ level = .list then some (.setting .xmlDir) else none
  | _ => none

def shortOption? (level : Level) (c : Char) : Option Opt :=
  if c = 'q' then some (.flag .quiet)
  else if c = 'v' then some (.flag .verbose)
  else if c = 'h' then some (.flag .help)
  else if c = 'c' then some (.setting .config)
  else if c = 'V' ∧ level = .program then some (.flag .version)
  else none

def commandOf? : String → Option Level
  | "extract" => some .extract
  | "collect" => some .collect
  | "list" => some .list
  | _ => none

structure Given where
  quiet : Bool := false
  verbose : Bool := false
  pretty : Bool := false
  config : Option String := none
  xmlDir : Option String := none
  identifiers : List String := []
  deriving DecidableEq, Repr

inductive Pending where
  | nothing
  | awaiting (s : Setting)
  | holding (s : Setting) (value : String)
  deriving DecidableEq, Repr

structure State where
  given : Given := {}
  pending : Pending := .nothing
  trailing : Bool := false
  deriving DecidableEq, Repr

def Given.set (g : Given) (s : Setting) (value : String) : Except Refusal Given :=
  let previous := match s with
    | .config => g.config
    | .xmlDir => g.xmlDir
  if previous.isSome then .error .conflict
  else if value = "" then .error .invalidValue
  else match s with
    | .config => .ok { g with config := some value }
    | .xmlDir => .ok { g with xmlDir := some value }

def Given.raise (g : Given) : Flag → Except Refusal Given
  | .help => .error .help
  | .version => .error .version
  | .quiet => if g.quiet then .error .conflict else .ok { g with quiet := true }
  | .verbose => if g.verbose then .error .conflict else .ok { g with verbose := true }
  | .pretty => if g.pretty then .error .conflict else .ok { g with pretty := true }

def State.settle (s : State) : Except Refusal State :=
  match s.pending with
  | .nothing => .ok s
  | .awaiting _ => .error .invalidValue
  | .holding setting value => do
    let given ← s.given.set setting value
    .ok { s with given, pending := .nothing }

def State.raise (s : State) (f : Flag) : Except Refusal State := do
  let s ← s.settle
  let given ← s.given.raise f
  .ok { s with given }

def State.await (s : State) (setting : Setting) : Except Refusal State := do
  let s ← s.settle
  .ok { s with pending := .awaiting setting }

def State.assign (s : State) (setting : Setting) (value : String) : Except Refusal State := do
  let s ← s.settle
  let given ← s.given.set setting value
  .ok { s with given }

def longArgument (level : Level) (s : State) (argument : List Char) : Except Refusal State :=
  let (name, value) := match Text.cutAt '=' argument with
    | some (name, value) => (name, some value)
    | none => (argument, none)
  match longOption? level (String.ofList name), value with
  | none, _ => .error .unknownArgument
  | some (.flag _), some _ => .error .surplusValue
  | some (.flag f), none => s.raise f
  | some (.setting setting), some v => s.assign setting (String.ofList v)
  | some (.setting setting), none => s.await setting

def shortArgument (level : Level) (s : State) : List Char → Except Refusal State
  | [] => .ok s
  | c :: r =>
    match shortOption? level c with
    | none => .error .unknownArgument
    | some (.flag f) => do shortArgument level (← s.raise f) r
    | some (.setting setting) =>
      match r with
      | [] => s.await setting
      | '=' :: value => s.assign setting (String.ofList value)
      | value => s.assign setting (String.ofList value)

/-- An argument that is no option. The program itself takes only a command, and behind two hyphens
the name of one is out of place. -/
def positional (level : Level) (s : State) (argument : String) : Except Refusal State :=
  match level with
  | .collect => do
    let s ← s.settle
    .ok { s with given := { s.given with identifiers := s.given.identifiers ++ [argument] } }
  | .program =>
    let isCommand := (commandOf? argument).isSome || argument == "help"
    .error (if s.trailing && isCommand then .unknownArgument else .unknownCommand)
  | .extract | .list => .error .unknownArgument

/-- Options are recognised by their hyphens even where a value is awaited; a single hyphen is no
option. -/
def State.take (level : Level) (s : State) (argument : String) : Except Refusal State :=
  if s.trailing then positional level s argument
  else match argument.toList, s.pending with
    | ['-', '-'], _ => .ok { s with trailing := true }
    | '-' :: '-' :: r, _ => longArgument level s r
    | '-' :: c :: r, _ => shortArgument level s (c :: r)
    | _, .awaiting setting => .ok { s with pending := .holding setting argument }
    | _, _ => positional level s argument

def State.finish (s : State) : Except Refusal Given := do
  let s ← s.settle
  if s.given.quiet && s.given.verbose then .error .conflict else .ok s.given

def commandLevel (level : Level) : State → List String → Except Refusal Given
  | s, [] => do
    let given ← s.finish
    if level = .collect ∧ given.identifiers.isEmpty then .error .missingArgument else .ok given
  | s, argument :: rest => do commandLevel level (← s.take level argument) rest

def helpLevel : List String → Refusal
  | [] => .help
  | [name] => if (commandOf? name).isSome ∨ name = "help" then .help else .unknownCommand
  | _ => .unknownCommand

def invocation (level : Level) (outer inner : Given) : Except Refusal Invocation :=
  let finish (command : Command) : Except Refusal Invocation :=
    .ok ⟨command, outer.quiet || inner.quiet, outer.verbose || inner.verbose,
      inner.config.or outer.config⟩
  match level with
  | .program => .error .missingCommand
  | .extract => finish .extract
  | .collect => finish (.collect inner.identifiers inner.xmlDir inner.pretty)
  | .list => finish (.list inner.xmlDir)

def State.expectsCommand (s : State) : Bool :=
  !s.trailing && match s.pending with
    | .awaiting _ => false
    | _ => true

def programLevel : State → List String → Except Refusal Invocation
  | s, [] => do
    let given ← match s.pending with
      | .awaiting _ => .error .invalidValue
      | _ => (s.settle).map (·.given)
    if given == {} then .error .nothingAsked else .error .missingCommand
  | s, argument :: rest =>
    if s.expectsCommand && argument == "help" then .error (helpLevel rest)
    else match s.expectsCommand, commandOf? argument with
      | true, some level => do
        let inner ← commandLevel level {} rest
        let outer ← s.finish
        invocation level outer inner
      | _, _ => do programLevel (← s.take .program argument) rest

def parse (arguments : List String) : Except Refusal Invocation :=
  programLevel {} arguments

end CommandLine

end SymbolDocs
