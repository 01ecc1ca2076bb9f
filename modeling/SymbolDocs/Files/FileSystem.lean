import SymbolDocs.Files.Path
import SymbolDocs.Text.Utf8
/-!
A file system without links, as a value. Paths are followed name by name, so `..` leaves the
directory that was actually reached.
-/

namespace SymbolDocs

inductive Entry where
  | directory
  | file (content : ByteArray) (executable : Bool)

/-- Entries by the names that lead to them from the root, and the current directory. The root is
always there. -/
structure FileSystem where
  entries : List (List String × Entry)
  cwd : List String

namespace FileSystem

def entry? (fs : FileSystem) (at_ : List String) : Option Entry :=
  match at_ with
  | [] => some .directory
  | _ => (fs.entries.find? fun e => e.1 == at_).map (·.2)

def maxName : Nat := 255

def maxPath : Nat := 4095

def follow (fs : FileSystem) (here : List String) : List String → Except OsError (List String)
  | [] => .ok here
  | piece :: pieces =>
    match fs.entry? here with
    | none => .error .notFound
    | some (.file _ _) => .error .notADirectory
    | some .directory =>
      if piece = "" ∨ piece = "." then follow fs here pieces
      else if piece = ".." then follow fs here.dropLast pieces
      else if maxName < piece.utf8ByteSize then .error .nameTooLong
      else follow fs (here ++ [piece]) pieces

def locate (fs : FileSystem) (path : String) : Except OsError (List String) :=
  if path.toList.contains '\x00' then .error .nulInName
  else if path = "" then .error .notFound
  else if maxPath < path.utf8ByteSize then .error .nameTooLong
  else fs.follow (if Path.isAbsolute path then [] else fs.cwd) (Path.pieces path)

def get (fs : FileSystem) (path : String) : Except OsError Entry := do
  let there ← fs.locate path
  match fs.entry? there with
  | some entry => .ok entry
  | none => .error .notFound

def exists? (fs : FileSystem) (path : String) : Bool :=
  match fs.get path with
  | .ok _ => true
  | .error _ => false

def isDirectory (fs : FileSystem) (path : String) : Bool :=
  match fs.get path with
  | .ok .directory => true
  | _ => false

def isFile (fs : FileSystem) (path : String) : Bool :=
  match fs.get path with
  | .ok (.file _ _) => true
  | _ => false

def readBytes (fs : FileSystem) (path : String) : Except OsError ByteArray := do
  match ← fs.get path with
  | .directory => .error .isADirectory
  | .file content _ => .ok content

def readText (fs : FileSystem) (path : String) : Except OsError String := do
  match Text.ofUtf8? (← fs.readBytes path) with
  | some text => .ok text
  | none => .error .notText

theorem readText_eq_ok {fs : FileSystem} {path text : String}
    (h : fs.readBytes path = .ok text.toUTF8) : fs.readText path = .ok text := by
  rw [readText, h]
  simp only [bind, Except.bind, Text.ofUtf8?_toUTF8]

def put (fs : FileSystem) (there : List String) (entry : Entry) : FileSystem :=
  { fs with entries := (there, entry) :: fs.entries.filter fun e => e.1 != there }

def erase (fs : FileSystem) (there : List String) : FileSystem :=
  { fs with entries := fs.entries.filter fun e => !there.isPrefixOf e.1 }

def writeBytes (fs : FileSystem) (path : String) (content : ByteArray) :
    Except OsError FileSystem := do
  let there ← fs.locate path
  match fs.entry? there with
  | some .directory => .error .isADirectory
  | some (.file _ executable) => .ok (fs.put there (.file content executable))
  | none =>
    match fs.entry? there.dropLast with
    | some .directory => .ok (fs.put there (.file content false))
    | some (.file _ _) => .error .notADirectory
    | none => .error .notFound

def withoutEndSlashes (path : String) : String :=
  String.ofList (path.toList.reverse.dropWhile (· == '/')).reverse

def makeDirectory (fs : FileSystem) (path : String) : Except OsError FileSystem := do
  let there ← fs.locate (if withoutEndSlashes path = "" then path else withoutEndSlashes path)
  match fs.entry? there with
  | some _ => .error .alreadyExists
  | none =>
    match fs.entry? there.dropLast with
    | some .directory => .ok (fs.put there .directory)
    | some (.file _ _) => .error .notADirectory
    | none => .error .notFound

def ensureDirectory (fs : FileSystem) (path : String) : Except OsError FileSystem :=
  match fs.makeDirectory path with
  | .ok fs' => .ok fs'
  | .error cause => if fs.isDirectory path then .ok fs else .error cause

/-- Makes a directory and, if it lacks a parent, that one first. `outer` holds the paths of the
parents, innermost first. -/
def makeWithParents (fs : FileSystem) (path : String) :
    (outer : List String) → Except OsError FileSystem
  | [] => fs.ensureDirectory path
  | parent :: outer =>
    match fs.ensureDirectory path with
    | .error .notFound => do (← makeWithParents fs parent outer).ensureDirectory path
    | made => made

def segments : List String → List (List String)
  | [] => []
  | n :: ns => [n] :: (segments ns).map (n :: ·)

def parents (path : String) : List String :=
  let start := if Path.isAbsolute path then "/" else ""
  (segments (Path.names path).dropLast).reverse.map fun ns => start ++ Text.joinWith "/" ns

def makeDirectories (fs : FileSystem) (path : String) : Except OsError FileSystem :=
  if path = "" then .ok fs else fs.makeWithParents path (parents path)

def byteCount (fs : FileSystem) : Nat :=
  fs.entries.foldl (fun count e => match e.2 with
    | .directory => count
    | .file content _ => count + content.size) 0

end FileSystem

end SymbolDocs
