import SymbolDocs.Script.Condition
import SymbolDocs.Script.Tool.Table

namespace SymbolDocs.Script

open Text (Octets)

inductive Executable where
  | tool (work : Tool)
  | shell
  | runner (name : String)
  | file (content : ByteArray)

def toolDirectories : List String := ["/usr/bin", "/bin"]

def defaultSearchPath : String := "/bin:/usr/bin"

def shellNames : List String := ["sh", "dash", "bash"]

def runnerNames : List String :=
  ["awk", "env", "find", "mawk", "nice", "nohup", "setsid", "stdbuf", "timeout", "xargs"]

namespace Executable

def ofName? (name : String) : Option Executable :=
  if shellNames.contains name then some .shell
  else if runnerNames.contains name then some (.runner name)
  else (tool? name).map .tool

def resolved (path : String) : List String :=
  (Path.names path).foldl (fun ns n => if n = ".." then ns.dropLast else ns ++ [n]) []

def isClosed (path : String) : Bool :=
  path.endsWith "/" || path.endsWith "/."

def atPath (fs : FileSystem) (path : String) : Except OsError Executable :=
  let there := resolved path
  let standing := if Path.isAbsolute path && toolDirectories.contains (Path.ofNames there.dropLast)
    then there.getLast?.bind ofName? else none
  match standing with
  | some e => if isClosed path then .error .notADirectory else .ok e
  | none =>
    if Path.isAbsolute path && Condition.isStanding (Path.ofNames there) then
      .error .permissionDenied
    else match fs.get path with
      | .error e => .error e
      | .ok (.file content true) => .ok (.file content)
      | .ok _ => .error .permissionDenied

def candidates (searchPath name : String) : List String :=
  (Text.splitOn ':' searchPath.toList).map fun dir =>
    if dir.isEmpty then name else Path.join (String.ofList dir) name

/-- Tries paths in order. One that may not be run is only an answer if nothing better follows. -/
def firstOf (fs : FileSystem) (isRefused : Bool) :
    List String → Except OsError (String × Executable)
  | [] => .error (if isRefused then .permissionDenied else .notFound)
  | path :: paths =>
    match atPath fs path with
    | .ok e => .ok (path, e)
    | .error .permissionDenied => firstOf fs true paths
    | .error .notFound | .error .notADirectory => firstOf fs isRefused paths
    | .error e => .error e

def find (fs : FileSystem) (searchPath name : String) : Except OsError (String × Executable) :=
  if name.toList.contains '/' then (atPath fs name).map fun e => (name, e)
  else if FileSystem.maxName < name.utf8ByteSize then .error .nameTooLong
  else firstOf fs false (candidates searchPath name)

def interpreter? (content : ByteArray) : Option (Octets × List Octets) :=
  let isGap (c : Char) : Bool := c == ' ' || c == '\t'
  match Octets.ofBytes (content.extract 0 256) with
  | '#' :: '!' :: r =>
    let line := (r.takeWhile (· != '\n')).dropWhile isGap
    let line := (line.reverse.dropWhile isGap).reverse
    let path := line.takeWhile (!isGap ·)
    let argument := (line.dropWhile (!isGap ·)).dropWhile isGap
    if path.isEmpty then none
    else some (path, if argument.isEmpty then [] else [argument])
  | _ => none

end Executable

end SymbolDocs.Script
