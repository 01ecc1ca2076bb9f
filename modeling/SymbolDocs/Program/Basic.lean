import SymbolDocs.Environment
import SymbolDocs.Files.FileSystem
import SymbolDocs.Program.Signal

namespace SymbolDocs

structure Launch where
  program : String
  arguments : List String
  directory : String
  input : ByteArray

structure Outcome where
  ending : Ending
  output : ByteArray
  errors : ByteArray
  files : FileSystem

/-- A way to run programs. It fails if a program cannot be started. -/
abbrev Launcher := Environment → FileSystem → Launch → Except OsError Outcome

end SymbolDocs
