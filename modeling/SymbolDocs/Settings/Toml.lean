import SymbolDocs.Settings.TomlScalar
import SymbolDocs.Settings.TomlText
import SymbolDocs.Text.Cut
/-!
TOML documents as tables. A table may be named before it is defined and extended by dotted keys, but
never defined twice; what a document says of a table is therefore kept with it until the end.
-/

namespace SymbolDocs.Settings.Toml

/-- What stands under a key. A table is implicit until a header or a value defines it, and dotted if
only dotted keys made it. -/
inductive Node where
  | value (v : Value)
  | table (isImplicit isDotted : Bool) (entries : List (String × Node))
  | tables (items : List Node)
  deriving Inhabited

abbrev Entries := List (String × Node)

/-- Changes the table at a path below `entries`, which belong to a table that is dotted or not.
Missing tables are made on the way. A dotted path passes only through implicit tables; of several
tables under one key the last one is meant. -/
def change (byDots : Bool) (f : Bool → Entries → Option Entries) :
    List String → Bool → Entries → Option Entries
  | [], isDotted, entries => f isDotted entries
  | key :: keys, _, entries =>
    match field? entries key with
    | none => do
      let inner ← change byDots f keys byDots []
      return setField entries key (.table true byDots inner)
    | some (.value _) => none
    | some (.table isImplicit isDotted inner) =>
      if byDots && !isImplicit then none
      else do
        let inner ← change byDots f keys isDotted inner
        return setField entries key (.table isImplicit isDotted inner)
    | some (.tables items) =>
      match items.getLast? with
      | some (.table isImplicit isDotted inner) => do
        let inner ← change byDots f keys isDotted inner
        return setField entries key (.tables (items.dropLast ++ [.table isImplicit isDotted inner]))
      | _ => none

def define (path : List String) (key : String) (node : Node) (entries : Entries) : Option Entries :=
  change true (fun isDotted entries =>
    if isDotted == path.isEmpty || (field? entries key).isSome then none
    else some (setField entries key node)) path false entries

def splitLast : List String → Option (List String × String)
  | [] => none
  | [key] => some ([], key)
  | k :: ks => (splitLast ks).map fun (path, key) => (k :: path, key)

def openTable (header : List String) (root : Entries) : Option Entries := do
  let (path, key) ← splitLast header
  change false (fun _ entries =>
    match field? entries key with
    | none => some (setField entries key (.table false false []))
    | some (.table true false inner) => some (setField entries key (.table false false inner))
    | some _ => none) path false root

def openItem (header : List String) (root : Entries) : Option Entries := do
  let (path, key) ← splitLast header
  change false (fun _ entries =>
    match field? entries key with
    | none => some (setField entries key (.tables [.table false false []]))
    | some (.tables items) =>
      some (setField entries key (.tables (items ++ [.table false false []])))
    | some _ => none) path false root

mutual

def Node.toValue : Node → Value
  | .value v => v
  | .table _ _ entries => .table (entriesToValue entries)
  | .tables items => .array (itemsToValue items)

def entriesToValue : List (String × Node) → List (String × Value)
  | [] => []
  | (key, node) :: rest => (key, node.toValue) :: entriesToValue rest

def itemsToValue : List Node → List Value
  | [] => []
  | node :: rest => node.toValue :: itemsToValue rest

end

def arrayItems (item : Reader Value) : (fuel : Nat) → Reader (List Value)
  | 0, _ => none
  | fuel + 1, s =>
    match skipLines s.length s with
    | ']' :: r => some ([], r)
    | s => do
      let (first, r) ← item s
      match skipLines r.length r with
      | ',' :: r =>
        let (rest, r) ← arrayItems item fuel r
        return (first :: rest, r)
      | ']' :: r => return ([first], r)
      | _ => none

def keyValue (item : Reader Value) (s : List Char) :
    Option ((List String × Value) × List Char) := do
  let (key, r) ← dottedKey s
  match skipGap r with
  | '=' :: r =>
    let (value, r) ← item (skipGap r)
    return ((key, value), r)
  | _ => none

def inlineFields (item : Reader Value) : (fuel : Nat) → Reader (List (List String × Value))
  | 0, _ => none
  | fuel + 1, s => do
    let (first, r) ← keyValue item (skipGap s)
    match skipGap r with
    | ',' :: r =>
      let (rest, r) ← inlineFields item fuel r
      return (first :: rest, r)
    | '\x7d' :: r => return ([first], r)
    | _ => none

def inlineTable (fields : List (List String × Value)) : Option Value := do
  let entries ← fields.foldlM (fun entries (keys, v) => do
    let (path, key) ← splitLast keys
    define path key (.value v) entries) []
  return .table (entriesToValue entries)

def isScalarChar (c : Char) : Bool :=
  c.isAlphanum || c == '+' || c == '-' || c == '_' || c == '.' || c == ':'

/-- A scalar without quotes. A space between a date and a time belongs to it. -/
def scalar (s : List Char) : Option (Value × List Char) :=
  let token := s.takeWhile isScalarChar
  let r := s.drop token.length
  let (token, r) := match dropDate? token, r with
    | some [], ' ' :: a :: b :: ':' :: rest =>
      if Text.isDecimalDigit a && Text.isDecimalDigit b then
        let time := (a :: b :: ':' :: rest).takeWhile isScalarChar
        (token ++ ' ' :: time, (a :: b :: ':' :: rest).drop time.length)
      else (token, r)
    | _, _ => (token, r)
  (scalar? token).map fun v => (v, r)

def value : (depth : Nat) → Reader Value
  | _, '"' :: r => (quotedString ('"' :: r)).map fun (s, r) => (.string (String.ofList s), r)
  | _, '\'' :: r => (quotedString ('\'' :: r)).map fun (s, r) => (.string (String.ofList s), r)
  | depth + 1, '[' :: r =>
    (arrayItems (value depth) (r.length + 1) r).map fun (xs, r) => (.array xs, r)
  | depth + 1, '\x7b' :: r =>
    match skipGap r with
    | '\x7d' :: r => some (.table [], r)
    | r => do
      let (fields, r) ← inlineFields (value depth) r.length r
      return (← inlineTable fields, r)
  | _, s => scalar s

structure Document where
  root : Entries
  header : List String

def Document.define (d : Document) (keys : List String) (v : Value) : Option Document := do
  let (path, key) ← splitLast keys
  let root ← change false (fun _ entries => Toml.define path key (.value v) entries) d.header false
    d.root
  return { d with root }

def headerKey (close : List Char) (s : List Char) : Option (List String × List Char) := do
  let s := skipGap s
  let (key, r) ← dottedKey s
  let r ← Text.dropStart? close (skipGap r)
  return (key, r)

def expression (d : Document) (s : List Char) : Option (Document × List Char) :=
  match s with
  | '[' :: '[' :: r => do
    let (key, r) ← headerKey [']', ']'] r
    return (⟨← openItem key d.root, key⟩, r)
  | '[' :: r => do
    let (key, r) ← headerKey [']'] r
    return (⟨← openTable key d.root, key⟩, r)
  | s => do
    let ((keys, v), r) ← keyValue (value maxDepth) s
    return (← d.define keys v, r)

def expressions : (fuel : Nat) → Document → List Char → Option Document
  | 0, _, _ => none
  | fuel + 1, d, s =>
    match skipLines s.length s with
    | [] => some d
    | s => do
      let (d, r) ← expression d s
      expressions fuel d (← dropLineEnd? r)

def parse? (text : String) : Option (List (String × Value)) := do
  let s := match text.toList with
    | '\uFEFF' :: r => r
    | s => s
  let d ← expressions (s.length + 1) ⟨[], []⟩ s
  return entriesToValue d.root

end SymbolDocs.Settings.Toml
