import SymbolDocs.CommandLine
import SymbolDocs.Extraction
import SymbolDocs.Symbol.Json
/-!
The program as a whole, as a function from its arguments and surroundings to what it prints and
leaves.
-/

namespace SymbolDocs

structure World where
  files : FileSystem
  environment : Environment

namespace App

inductive Failure where
  | loading (error : Settings.Error)
  | validating (error : Settings.Error)
  | opening (dir : String) (error : Error)
  | collecting (identifier : String) (error : Error)
  | extracting (program : String) (error : Error)
  deriving DecidableEq, Repr

def chain : Error → String
  | .io cause => (Error.io cause).message ++ ": " ++ cause.message
  | e => e.message

def settingsChain : Settings.Error → String
  | .unreadable => Settings.Error.unreadable.message ++ ": " ++ Settings.Error.unreadable.cause
  | .wrongType e cwd =>
    (Settings.Error.wrongType e cwd).message ++ ": " ++ (Settings.Error.wrongType e cwd).cause
  | e => e.message

def Failure.message : Failure → String
  | loading e => "failed to load doxymark configuration: " ++ settingsChain e
  | validating e => settingsChain e
  | opening dir e => s!"failed to open Doxygen XML in {dir}: " ++ chain e
  | collecting identifier e => s!"failed to collect '{identifier}': " ++ chain e
  | extracting program e => s!"failed to run {program}: " ++ chain e

structure Report where
  code : Nat
  output : String
  error : Option String
  deriving DecidableEq, Repr

/-- A run that breaks off says nothing and ends with a code of its own. -/
def Report.ofOutcome : Except Failure String → Report
  | .ok output => ⟨0, output, none⟩
  | .error (.loading .brokenOff) => ⟨101, "", none⟩
  | .error e => ⟨1, "", some ("doxymark error: " ++ e.message ++ "\n")⟩

def Report.ofRefusal : CommandLine.Refusal → Report
  | .help => ⟨0, "", none⟩
  | .version => ⟨0, "doxymark 0.1.0\n", none⟩
  | _ => ⟨2, "", none⟩

def loadSettings (world : World) (invocation : Invocation) : Except Failure Settings :=
  let mode : Settings.Mode := match invocation.config with
    | some path => .withFile path
    | none => .withDotenv
  (Settings.load world.files world.environment mode).mapError .loading

def openIndex (fs : FileSystem) (settings : Settings) (xmlDir : Option String) :
    Except Failure Index :=
  let dir := xmlDir.getD settings.extraction.xmlOutput
  (Index.ofDirectory fs dir).mapError (.opening dir)

def list (index : Index) : String :=
  Text.joinWith "" (index.compoundNames.map fun (kind, name) => kind ++ " " ++ name ++ "\n")

/-- The symbols of the identifiers in order, up to the first that has none. Documents are read once
for all of them. -/
def collectAll (index : Index) (fs : FileSystem) (v : Visibility) :
    List String → ExceptT Failure (StateM Cache) (List Symbol)
  | [] => pure []
  | identifier :: identifiers => do
    let symbol ← (index.collect fs identifier).adapt (Failure.collecting identifier)
    let symbols ← collectAll index fs v identifiers
    pure (symbol.shown v :: symbols)

def symbolsJson : List Symbol → Json
  | [symbol] => symbol.toJson
  | symbols => .array (symbols.map Symbol.toJson)

def collect (index : Index) (fs : FileSystem) (v : Visibility) (identifiers : List String)
    (isPretty : Bool) : Except Failure String := do
  let symbols ← ((collectAll index fs v identifiers).run.run []).1
  .ok ((symbolsJson symbols).render isPretty ++ "\n")

def extractionReport (index : Index) (settings : Settings) (quiet : Bool) : String :=
  let count := index.compoundNames.length
  let dir := settings.extraction.xmlOutput
  if quiet then "" else s!"extracted {count} compounds into {dir}\n"

def extract (launch : Launcher) (world : World) (settings : Settings) (quiet : Bool) :
    FileSystem × Except Failure String :=
  let extraction := settings.extraction
  match extraction.validate with
  | .error e => (world.files, .error (.validating e))
  | .ok _ =>
    let env := (Dotenv.load? world.files world.environment).getD world.environment
    let (result, files) := (Extraction.run launch env extraction).run.run world.files
    (files, match result with
      | .ok index => .ok (extractionReport index settings quiet)
      | .error e => .error (.extracting extraction.doxygen e))

def perform (launch : Launcher) (world : World) (invocation : Invocation) :
    FileSystem × Except Failure String :=
  match loadSettings world invocation with
  | .error e => (world.files, .error e)
  | .ok settings =>
    match invocation.command with
    | .extract => extract launch world settings invocation.quiet
    | .collect identifiers xmlDir isPretty =>
      (world.files, do
        collect (← openIndex world.files settings xmlDir) world.files settings.render identifiers
          isPretty)
    | .list xmlDir => (world.files, (openIndex world.files settings xmlDir).map list)

def run (launch : Launcher) (world : World) (arguments : List String) : FileSystem × Report :=
  match CommandLine.parse arguments with
  | .error refusal => (world.files, .ofRefusal refusal)
  | .ok invocation =>
    let (files, outcome) := perform launch world invocation
    (files, .ofOutcome outcome)

end App

end SymbolDocs
