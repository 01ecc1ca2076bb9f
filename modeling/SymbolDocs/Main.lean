import SymbolDocs.App
import SymbolDocs.Program.Launcher

namespace SymbolDocs.Main

def placeFile (fs : FileSystem) (path : String) (content : ByteArray) : FileSystem :=
  let there := Path.names (match Path.absolute fs.cwd path with
    | .ok whole => whole
    | .error _ => path)
  let isScript := content.data.toList.take 2 == "#!".toUTF8.data.toList
  ((FileSystem.segments there.dropLast).foldl (fun fs dir => fs.put dir .directory) fs).put there
    (.file content isScript)

def settingsFiles (world : World) (invocation : Invocation) : List String :=
  let upwards := ([] :: FileSystem.segments world.files.cwd).map fun dir =>
    Path.join (Path.ofNames dir) ".env"
  upwards ++ (Settings.userFile? world.environment).toList ++ [Settings.projectFile] ++
    invocation.config.toList

def mentionedFiles (fs : FileSystem) (dir : String) (known : List String) : List String :=
  known.flatMap fun path =>
    match readDocument fs path with
    | .error _ => []
    | .ok root =>
      root.descendants.flatMap fun e =>
        match e.attr? "refid" with
        | none => []
        | some refid =>
          let owner := match Index.owningCompound refid with
            | .ok owner => [owner]
            | .error _ => []
          (refid :: owner).map fun name => Path.join dir (name ++ ".xml")

def wantedFiles (world : World) (invocation : Invocation) (known : List String) : List String :=
  settingsFiles world invocation ++
    match App.loadSettings world invocation with
    | .error _ => []
    | .ok settings =>
      let dir := match invocation.command with
        | .extract => settings.extraction.xmlOutput
        | .collect _ xmlDir _ => xmlDir.getD settings.extraction.xmlOutput
        | .list xmlDir => xmlDir.getD settings.extraction.xmlOutput
      let program := Path.join settings.extraction.sourceDirectory settings.extraction.doxygen
      Path.join dir "index.xml" :: program :: mentionedFiles world.files dir known

partial def gatherFiles (world : World) (invocation : Invocation) (known : List String) :
    IO World := do
  let wanted := (wantedFiles world invocation known).eraseDups.filter fun path =>
    !known.contains path
  if wanted.isEmpty then return world
  let mut files := world.files
  for path in wanted do
    try files := placeFile files path (← IO.FS.readBinFile path)
    catch _ => pure ()
  gatherFiles { world with files } invocation (known ++ wanted)

def writeBack (before after : FileSystem) : IO Unit := do
  for (there, entry) in after.entries.reverse do
    match entry, before.entry? there with
    | .directory, none => IO.FS.createDirAll (Path.ofNames there)
    | .file content _, some (.file previous _) =>
      if content != previous then IO.FS.writeBinFile (Path.ofNames there) content
    | .file content _, _ => IO.FS.writeBinFile (Path.ofNames there) content
    | _, _ => pure ()

def readEnvironment : IO Environment := do
  let content ← try IO.FS.readBinFile "/proc/self/environ" catch _ => pure ByteArray.empty
  return (Text.splitOn '\x00' (Text.ofUtf8Lossy content).toList).filterMap fun variable_ =>
    (Text.cutAt '=' variable_).map fun (name, value) => (String.ofList name, String.ofList value)

def runOnDisk (arguments : List String) : IO UInt32 := do
  let cwd ← IO.currentDir
  let empty : World := ⟨⟨[], Path.names cwd.toString⟩, ← readEnvironment⟩
  let base := (FileSystem.segments empty.files.cwd).foldl (fun fs dir => fs.put dir .directory)
    empty.files
  let start : World := { empty with files := base }
  let world ← match CommandLine.parse arguments with
    | .ok invocation => gatherFiles start invocation []
    | .error _ => pure start
  let (files, report) := App.run Launcher.scripts world arguments
  writeBack world.files files
  IO.print report.output
  if let some message := report.error then IO.eprint message
  return report.code.toUInt32

end SymbolDocs.Main

def main (arguments : List String) : IO UInt32 :=
  SymbolDocs.Main.runOnDisk arguments
