import SymbolDocs.Index
import SymbolDocs.Program.Basic
import SymbolDocs.Settings.Basic
/-!
Running the extractor over sources: its configuration is written from the settings and fed to it,
and the index that it leaves is opened.
-/

namespace SymbolDocs

abbrev Doxyfile := List (String × String)

namespace Doxyfile

def predefinedValue (symbols : List String) : String :=
  Text.joinWith " " (symbols.map fun s => "\"" ++ s ++ "\"")

/-- The output directory is written from the root, because the extractor runs elsewhere. -/
def ofSettings (cwd : List String) (s : ExtractionSettings) : Except OsError Doxyfile := do
  let xmlOutput ← Path.absolute cwd s.xmlOutput
  .ok [
    ("PROJECT_NAME", s.projectName),
    ("GENERATE_XML", "YES"),
    ("GENERATE_LATEX", "NO"),
    ("GENERATE_HTML", "NO"),
    ("INCLUDE_PATH", s.sourceDirectory),
    ("INPUT", Text.joinWith " " s.sources),
    ("XML_OUTPUT", xmlOutput),
    ("EXTRACT_ALL", "YES"),
    ("QUIET", "NO"),
    ("AUTOLINK_SUPPORT", "NO"),
    ("MACRO_EXPANSION", "YES"),
    ("SKIP_FUNCTION_MACROS", "NO"),
    ("PREDEFINED", predefinedValue s.predefined)]

def line (assignment : String × String) : String :=
  assignment.1 ++ " = " ++ assignment.2 ++ "\n"

def text (d : Doxyfile) : String :=
  Text.joinWith "" (d.map line)

end Doxyfile

namespace Extraction

/-- Steps that change files, also if a later one fails. -/
abbrev Job := ExceptT Error (StateM FileSystem)

def change (step : FileSystem → Except OsError FileSystem) : Job Unit := do
  match step (← get) with
  | .ok fs => set fs
  | .error cause => throw (.io cause)

def log (outcome : Outcome) : String :=
  Text.trim (Text.ofUtf8Lossy outcome.output ++ Text.ofUtf8Lossy outcome.errors)

def complete (launch : Launcher) (env : Environment) (request : Launch) : Job Unit := do
  match launch env (← get) request with
  | .error cause => throw (.io cause)
  | .ok outcome =>
    set outcome.files
    if !outcome.ending.isSuccess then
      throw (.extractionFailed outcome.ending.message (log outcome))

def run (launch : Launcher) (env : Environment) (s : ExtractionSettings) : Job Index := do
  change (·.makeDirectories s.xmlOutput)
  match Doxyfile.ofSettings (← get).cwd s with
  | .error cause => throw (.io cause)
  | .ok doxyfile =>
    complete launch env ⟨s.doxygen, ["-"], s.sourceDirectory, doxyfile.text.toUTF8⟩
    MonadExcept.ofExcept (Index.ofDirectory (← get) s.xmlOutput)

end Extraction

end SymbolDocs
