import SymbolDocs.Settings.Dotenv
import SymbolDocs.Settings.EnvValue
import SymbolDocs.Settings.Toml
/-!
Layers of settings. Each layer is a tree whose leaves know where they come from; a later layer
overrides an earlier one key by key, and lists and scalars as a whole.
-/

namespace SymbolDocs.Settings

inductive Origin where
  | builtIn
  | file (path : String)
  | environment
  deriving DecidableEq, Repr

inductive Tree where
  | leaf (origin : Origin) (value : Value)
  | table (origin : Origin) (fields : List (String × Tree))

namespace Tree

mutual

def ofValue (origin : Origin) : Value → Tree
  | .table fields => .table origin (ofFields origin fields)
  | v => .leaf origin v

def ofFields (origin : Origin) : List (String × Value) → List (String × Tree)
  | [] => []
  | (key, v) :: rest => (key, ofValue origin v) :: ofFields origin rest

end

mutual

def overlay : Tree → Tree → Tree
  | .table _ below, .table origin above => .table origin (overlayFields below above)
  | _, above => above

def overlayFields (below : List (String × Tree)) : List (String × Tree) → List (String × Tree)
  | [] => below
  | (key, t) :: rest =>
    let merged := match field? below key with
      | some s => overlay s t
      | none => t
    overlayFields (setField below key merged) rest

end

def nest (origin : Origin) : List String → Tree → Tree
  | [], t => t
  | key :: keys, t => .table origin [(key, nest origin keys t)]

def empty (origin : Origin) : Tree :=
  .table origin []

def ofLayers (layers : List Tree) : Tree :=
  layers.foldl overlay (empty .builtIn)

end Tree

def envStart : String := "DOXYMARK_"

def envKey? (name : String) : Option (List String) := do
  let upper := (Text.trimChars name.toList).map Char.toUpper
  let rest ← Text.dropStart? envStart.toList upper
  let dotted := Text.replacePair '_' '_' '.' (rest.map Char.toLower)
  let keys := (Text.splitOn '.' (Text.trimChars dotted)).map String.ofList
  if keys.contains "" then none else some keys

/-- The layer of the environment; of two variables for one key the later one counts. There is none
if the value of one of them cannot be read. -/
def envLayer? (env : Environment) : Option Tree :=
  env.foldlM (fun layer (name, text) =>
    match envKey? name with
    | none => some layer
    | some keys =>
      (EnvValue.parse? text).map fun v =>
        layer.overlay (.nest .environment keys (.ofValue .environment v)))
    (.empty .environment)

def searchUpwards (fs : FileSystem) (path : String) : List String → Option String
  | [] =>
    let candidate := Path.join "/" path
    if fs.isFile candidate then some candidate else none
  | name :: outer =>
    let candidate := Path.join (Path.ofNames (name :: outer).reverse) path
    if fs.isFile candidate then some candidate else searchUpwards fs path outer

def findFile? (fs : FileSystem) (path : String) : Option String :=
  if Path.isAbsolute path then (if fs.isFile path then some path else none)
  else searchUpwards fs path fs.cwd.reverse

/-- The layer of a file. A file that is not there adds nothing; one that cannot be read as TOML has
no layer. -/
def fileLayer? (fs : FileSystem) (path : String) : Option Tree :=
  match findFile? fs path with
  | none => some (.empty (.file path))
  | some found =>
    match fs.readText found with
    | .error _ => none
    | .ok text =>
      ((Toml.parse? text).bind fieldMeanings?).map fun fields =>
        .ofValue (.file found) (.table fields)

end SymbolDocs.Settings
