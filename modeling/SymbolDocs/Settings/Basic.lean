import SymbolDocs.Settings.Layers
import SymbolDocs.Symbol.Visibility

namespace SymbolDocs

structure ExtractionSettings where
  doxygen : String := "doxygen"
  sourceDirectory : String := "."
  sources : List String := []
  predefined : List String := []
  xmlOutput : String := "build/doxygen/xml"
  projectName : String := "Doxymark"
  deriving DecidableEq, Repr

structure Settings where
  extraction : ExtractionSettings := {}
  render : Visibility := {}
  deriving DecidableEq, Repr

namespace Settings

inductive Expected where
  | boolean
  | string
  | path
  | sequence
  | extraction
  | render
  deriving DecidableEq, Repr

def Expected.shown : Expected → String
  | boolean => "a boolean"
  | string => "a string"
  | path => "path string"
  | sequence => "a sequence"
  | extraction => "struct ExtractionConfig"
  | render => "struct RenderOptions"

structure TypeError where
  found : String
  expected : Expected
  key : List String
  origin : Origin
  deriving DecidableEq, Repr

def Origin.shownKey : Origin → List String → String
  | .environment, key =>
    Text.joinWith "." (key.map fun k => String.ofList (k.toList.map Char.toUpper))
  | _, key => Text.joinWith "." ("default" :: key)

def Origin.shown (cwd : List String) : Origin → String
  | .builtIn => "defaults"
  | .file path =>
    let relative := Path.shownFrom cwd (Path.names path)
    (if Path.isAbsolute relative then path else relative) ++ " TOML file"
  | .environment => "`" ++ envStart ++ "` environment variable(s)"

def TypeError.message (cwd : List String) (e : TypeError) : String :=
  "invalid type: found " ++ e.found ++ ", expected " ++ e.expected.shown ++ " for key \"" ++
    e.origin.shownKey e.key ++ "\" in " ++ e.origin.shown cwd

namespace Tree

def origin : Tree → Origin
  | .leaf origin _ => origin
  | .table origin _ => origin

def shown : Tree → String
  | .leaf _ v => v.shown
  | .table _ _ => "map"

def mismatch (t : Tree) (key : List String) (expected : Expected) : Except TypeError α :=
  .error ⟨t.shown, expected, key, t.origin⟩

def bool (key : List String) : Tree → Except TypeError Bool
  | .leaf _ (.bool b) => .ok b
  | t => t.mismatch key .boolean

def text (expected : Expected) (key : List String) : Tree → Except TypeError String
  | .leaf _ (.string s) => .ok s
  | t => t.mismatch key expected

def stringsFrom (origin : Origin) (key : List String) :
    Nat → List Value → Except TypeError (List String)
  | _, [] => .ok []
  | n, v :: vs => do
    let first ← text .string (key ++ [toString n]) (.ofValue origin v)
    let rest ← stringsFrom origin key (n + 1) vs
    .ok (first :: rest)

def strings (key : List String) : Tree → Except TypeError (List String)
  | .leaf origin (.array items) => stringsFrom origin key 0 items
  | t => t.mismatch key .sequence

def field (read : List String → Tree → Except TypeError α) (key : List String)
    (fields : List (String × Tree)) (name : String) (default : α) : Except TypeError α :=
  match field? fields name with
  | some t => read (key ++ [name]) t
  | none => .ok default

def numbered (origin : Origin) : Nat → List Value → List (String × Tree)
  | _, [] => []
  | n, v :: vs => (toString n, .ofValue origin v) :: numbered origin (n + 1) vs

end Tree

open SymbolDocs.Settings.Tree (field)

/-- The extraction settings of a table, whose fields are checked in alphabetical order, or of a list
of the fields in order. -/
def readExtraction (key : List String) : Tree → Except TypeError ExtractionSettings
  | .table _ fs => do
    let doxygen ← field (Tree.text .path) key fs "doxygen" "doxygen"
    let predefined ← field Tree.strings key fs "predefined" []
    let projectName ← field (Tree.text .string) key fs "project_name" "Doxymark"
    let sourceDirectory ← field (Tree.text .path) key fs "source_directory" "."
    let sources ← field Tree.strings key fs "sources" []
    let xmlOutput ← field (Tree.text .path) key fs "xml_output" "build/doxygen/xml"
    .ok { doxygen, sourceDirectory, sources, predefined, xmlOutput, projectName }
  | .leaf origin (.array items) => do
    let fs := Tree.numbered origin 0 items
    let doxygen ← field (Tree.text .path) key fs "0" "doxygen"
    let sourceDirectory ← field (Tree.text .path) key fs "1" "."
    let sources ← field Tree.strings key fs "2" []
    let predefined ← field Tree.strings key fs "3" []
    let xmlOutput ← field (Tree.text .path) key fs "4" "build/doxygen/xml"
    let projectName ← field (Tree.text .string) key fs "5" "Doxymark"
    .ok { doxygen, sourceDirectory, sources, predefined, xmlOutput, projectName }
  | t => t.mismatch key .extraction

def readVisibility (key : List String) : Tree → Except TypeError Visibility
  | .table _ fs => do
    let description ← field Tree.bool key fs "show_description" true
    let initializer ← field Tree.bool key fs "show_initializer" true
    let postconditions ← field Tree.bool key fs "show_postconditions" true
    let preconditions ← field Tree.bool key fs "show_preconditions" true
    let returns ← field Tree.bool key fs "show_return" true
    .ok { description, initializer, preconditions, postconditions, returns }
  | .leaf origin (.array items) => do
    let fs := Tree.numbered origin 0 items
    let description ← field Tree.bool key fs "0" true
    let initializer ← field Tree.bool key fs "1" true
    let preconditions ← field Tree.bool key fs "2" true
    let postconditions ← field Tree.bool key fs "3" true
    let returns ← field Tree.bool key fs "4" true
    .ok { description, initializer, preconditions, postconditions, returns }
  | t => t.mismatch key .render

def ofTree : Tree → Except TypeError Settings
  | .table _ fs => do
    let extraction ← field readExtraction [] fs "extraction" {}
    let render ← field readVisibility [] fs "render" {}
    .ok { extraction, render }
  | .leaf _ _ => .ok {}

def extractionOfValue? : Value → Option ExtractionSettings
  | .array items =>
    if 6 < items.length then none
    else (readExtraction [] (.leaf .builtIn (.array items))).toOption
  | v => (readExtraction [] (.ofValue .builtIn v)).toOption

def visibilityOfValue? : Value → Option Visibility
  | .array items =>
    if 5 < items.length then none
    else (readVisibility [] (.leaf .builtIn (.array items))).toOption
  | v => (readVisibility [] (.ofValue .builtIn v)).toOption

/-- Why settings cannot be loaded or used. Loading breaks off at a variable whose value can neither
be read nor held. -/
inductive Error where
  | unreadable
  | brokenOff
  | wrongType (error : TypeError) (cwd : List String)
  | missingFile (path : String)
  | invalidValue (field reason : String)
  deriving DecidableEq, Repr

def Error.cause : Error → String
  | unreadable => "a configuration file is not valid TOML"
  | brokenOff => "a variable has a value that breaks off"
  | wrongType error cwd => error.message cwd
  | missingFile path => s!"Configuration file '{path}' not found"
  | invalidValue field reason => s!"Invalid configuration value for '{field}': {reason}"

def Error.message : Error → String
  | unreadable => "Configuration error: " ++ Error.cause unreadable
  | wrongType error cwd => "Configuration error: " ++ Error.cause (wrongType error cwd)
  | e => e.cause

def userFile? (env : Environment) : Option String :=
  let base := match env.get? "XDG_CONFIG_HOME" with
    | some dir => if Path.isAbsolute dir then some dir else none
    | none => none
  let base := base.or ((env.get? "HOME").bind fun home =>
    if home = "" then none else some (Path.join home ".config"))
  base.map fun dir => Path.join (Path.join dir "doxymark") "config.toml"

def projectFile : String := ".doxymark/config.toml"

def layerFiles (fs : FileSystem) (env : Environment) (explicit : Option String) : List String :=
  ((userFile? env).toList ++ [projectFile]).filter fs.exists? ++ explicit.toList

def loadLayers (fs : FileSystem) (env : Environment) (explicit : Option String) :
    Except Error Settings :=
  match envLayer? env, (layerFiles fs env explicit).mapM (fileLayer? fs) with
  | none, _ => .error .brokenOff
  | some _, none => .error .unreadable
  | some top, some files =>
    (ofTree (.ofLayers (files ++ [top]))).mapError fun e => .wrongType e fs.cwd

inductive Mode where
  | environment
  | withDotenv
  | withFile (path : String)
  deriving DecidableEq, Repr

def loadWithDotenv (fs : FileSystem) (env : Environment) (explicit : Option String) :
    Except Error Settings :=
  match Dotenv.load? fs env with
  | none => .error .brokenOff
  | some env => loadLayers fs env explicit

/-- An explicit file must be there, whatever else is wrong. -/
def load (fs : FileSystem) (env : Environment) : Mode → Except Error Settings
  | .environment => loadLayers fs env none
  | .withDotenv => loadWithDotenv fs env none
  | .withFile path =>
    if fs.exists? path then loadWithDotenv fs env (some path)
    else .error (.missingFile path)

end Settings

def ExtractionSettings.validate (s : ExtractionSettings) : Except Settings.Error Unit :=
  if s.sources.isEmpty then
    .error (.invalidValue "extraction.sources" "at least one source file is required")
  else if s.sources.any Text.isBlankText then
    .error (.invalidValue "extraction.sources" "source paths must not be blank")
  else .ok ()

end SymbolDocs
