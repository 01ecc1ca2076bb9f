import SymbolDocs.Files.OsError
import SymbolDocs.Text.Cut

namespace SymbolDocs.Path

def isAbsolute (path : String) : Bool :=
  path.toList.head? == some '/'

def endsInSlash (path : String) : Bool :=
  path.toList.getLast? == some '/'

def pieces (path : String) : List String :=
  (Text.splitOn '/' path.toList).map String.ofList

def names (path : String) : List String :=
  (pieces path).filter fun p => p != "" && p != "."

def join (dir name : String) : String :=
  if isAbsolute name || dir = "" then name
  else if endsInSlash dir then dir ++ name
  else dir ++ "/" ++ name

def ofNames (ns : List String) : String :=
  "/" ++ Text.joinWith "/" ns

/-- Exactly two slashes at the start are kept as two. -/
def root (path : String) : String :=
  match path.toList with
  | '/' :: '/' :: '/' :: _ => "/"
  | '/' :: '/' :: _ => "//"
  | _ => "/"

def absolute (cwd : List String) (path : String) : Except OsError String :=
  if path = "" then .error .emptyPath
  else
    let ns := if isAbsolute path then names path else cwd ++ names path
    let start := if isAbsolute path then root path else "/"
    let whole := start ++ Text.joinWith "/" ns
    .ok (if endsInSlash path && !endsInSlash whole then whole ++ "/" else whole)

def dropCommon : List String → List String → List String × List String
  | a :: as, b :: bs => if a = b then dropCommon as bs else (a :: as, b :: bs)
  | as, bs => (as, bs)

/-- How a file is shown to someone in the directory `cwd`: from there if that takes fewer names,
else from the root. -/
def shownFrom (cwd file : List String) : String :=
  let (up, down) := dropCommon cwd file
  let relative := up.map (fun _ => "..") ++ down
  if relative.length < file.length + 1 then Text.joinWith "/" relative else ofNames file

end SymbolDocs.Path
