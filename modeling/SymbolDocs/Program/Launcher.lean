import SymbolDocs.Program.Basic
import SymbolDocs.Script.Run
/-!
Launching programs that are scripts or tools. A program is found as the operating system finds it:
by its path, or by its name in the directories of the search path.
-/

namespace SymbolDocs

open Text (Octets)

namespace Launcher

def searchPath (env : Environment) : String :=
  (env.get? "PATH").getD Script.defaultSearchPath

def outcomeOf (s : Script.Shell) (cwd : List String) : Outcome where
  ending := match s.killer with
    | some signal => .killed signal
    | none => .exited s.status
  output := Octets.bytes (s.written 1)
  errors := Octets.bytes (s.written 2)
  files := { s.files with cwd }

/-- Runs scripts and tools. The program is looked for in the directory that it runs in. -/
def scripts : Launcher := fun env fs launch =>
  if (launch.program :: launch.directory :: launch.arguments).any (·.toList.contains '\x00') then
    .error .nulInArgument
  else do
    let there ← fs.locate launch.directory
    match ← fs.get launch.directory with
    | .file _ _ => .error .notADirectory
    | .directory =>
      let inside := { fs with cwd := there }
      if launch.program = "" then .error .notFound
      else
        let (path, e) ← Script.Executable.find inside (searchPath env) launch.program
        let name := Octets.ofText launch.program
        let arguments := launch.arguments.map Octets.ofText
        let start := Script.Shell.start inside env name arguments (Octets.ofBytes launch.input)
        let s ← Script.launch path e name arguments start
        .ok (outcomeOf s fs.cwd)

end Launcher

end SymbolDocs
