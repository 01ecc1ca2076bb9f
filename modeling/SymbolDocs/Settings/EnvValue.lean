import SymbolDocs.Settings.TomlText
import SymbolDocs.Text.Blank
import SymbolDocs.Text.Cut

namespace SymbolDocs.Settings.EnvValue

/-- Why a text is no value: it is malformed, or the start of a string is cut inside a character. -/
inductive Fault where
  | malformed
  | splitCharacter
  deriving DecidableEq, Repr

abbrev Reader (α : Type) := List Char → Except Fault (α × List Char)

def isSpace (c : Char) : Bool :=
  c == ' ' || c == '\t' || c == '\n' || c == '\x0c' || c == '\r'

def skipSpace (s : List Char) : List Char :=
  s.dropWhile isSpace

def isSeparator (c : Char) : Bool :=
  c == ',' || c == '\x7b' || c == '\x7d' || c == '[' || c == ']'

def float? (s : List Char) : Option Binary64 :=
  let (negative, r) := match s with
    | '-' :: r => (true, r)
    | '+' :: r => (false, r)
    | r => (false, r)
  let whole := r.takeWhile Text.isDecimalDigit
  match r.drop whole.length with
  | '.' :: r =>
    let fraction := r.takeWhile Text.isDecimalDigit
    let exponent : Option Int := match r.drop fraction.length with
      | [] => some 0
      | 'e' :: '-' :: e | 'E' :: '-' :: e => (Text.decimal? e).map fun n => -(n : Int)
      | 'e' :: '+' :: e | 'E' :: '+' :: e => (Text.decimal? e).map fun n => (n : Int)
      | 'e' :: e | 'E' :: e => (Text.decimal? e).map fun n => (n : Int)
      | _ => none
    match Text.decimal? (whole ++ fraction), exponent with
    | some digits, some e => some (.ofDecimal negative digits (e - fraction.length))
    | _, _ => none
  | _ => none

def unsigned? (s : List Char) : Option Nat :=
  let digits := match s with
    | '+' :: r => r
    | r => r
  (Text.decimal? digits).filter (· < 0x10000000000000000)

def signed? (s : List Char) : Option Int :=
  match s with
  | '-' :: r => ((Text.decimal? r).filter (· ≤ 0x8000000000000000)).map fun n => -(n : Int)
  | _ => none

def plain (s : List Char) : Value :=
  let t := Text.trimChars s
  match float? t, unsigned? t, signed? t with
  | some x, _, _ => .float x
  | none, some n, _ => .unsigned n
  | none, none, some n => .signed n
  | none, none, none => .string (String.ofList t)

def delimited (item : Reader α) (close : Char) : (fuel : Nat) → Reader (List α)
  | 0, _ => .error .malformed
  | fuel + 1, s =>
    match s with
    | [] => .error .malformed
    | c :: r =>
      if c = close then .ok ([], r)
      else do
        let (first, r) ← item s
        match r with
        | ',' :: r =>
          let (rest, r) ← delimited item close fuel r
          return (first :: rest, r)
        | c :: r => if c = close then .ok ([first], r) else .error .malformed
        | [] => .error .malformed

def quoted : Reader (List Char)
  | '"' :: r => .ok ([], r)
  | '\\' :: c :: r => (quoted r).map fun (t, r) => ('\\' :: c :: t, r)
  | c :: r => (quoted r).map fun (t, r) => (c :: t, r)
  | [] => .error .malformed

def unescaped (text : List Char) : Except Fault (List Char) :=
  let start := text.takeWhile (· != '\\')
  let escapes := text.drop start.length
  if !start.all Toml.isPlain then .error .malformed
  else if escapes.isEmpty then .ok start
  else
    match Text.takeBytes? start.length start, Toml.basicString (escapes ++ ['"']) with
    | none, _ => .error .splitCharacter
    | some _, none => .error .malformed
    | some cut, some (meaning, _) => .ok (cut ++ meaning)

def string (s : List Char) : Except Fault (String × List Char) := do
  let (text, r) ← quoted s
  return (String.ofList (← unescaped text), r)

def key (s : List Char) : Except Fault (String × List Char) :=
  match s with
  | '"' :: r => string r
  | _ =>
    let bare := s.takeWhile Toml.isBareKeyChar
    if bare.isEmpty then .error .malformed else .ok (String.ofList bare, s.drop bare.length)

def keyValue (item : Reader Value) : Reader (String × Value) := fun s => do
  let (k, r) ← key (skipSpace s)
  match skipSpace r with
  | '=' :: r =>
    let (v, r) ← item r
    return ((k, v), r)
  | _ => .error .malformed

def table (fields : List (String × Value)) : Value :=
  .table (fields.foldl (fun fs (k, v) => setField fs k v) [])

def value (limit : Nat) : (depth : Nat) → Reader Value
  | 0, _ => .error .malformed
  | depth + 1, s =>
    let s := skipSpace s
    let read : Except Fault (Value × List Char) := match s with
      | 't' :: 'r' :: 'u' :: 'e' :: r => .ok (.bool true, r)
      | 'f' :: 'a' :: 'l' :: 's' :: 'e' :: r => .ok (.bool false, r)
      | '\x7b' :: r =>
        (delimited (keyValue (value limit depth)) '\x7d' limit r).map fun (fs, r) =>
          (table fs, r)
      | '[' :: r =>
        (delimited (value limit depth) ']' limit r).map fun (xs, r) => (.array xs, r)
      | '"' :: r => (string r).map fun (t, r) => (.string t, r)
      | '\'' :: c :: '\'' :: r => .ok (.string (String.ofList [c]), r)
      | '\'' :: _ => .error .malformed
      | s =>
        let text := s.takeWhile fun c => !isSeparator c
        .ok (plain text, s.drop text.length)
    read.map fun (v, r) => (v, skipSpace r)

def parse? (text : String) : Option Value :=
  let limit := text.length + 1
  match value limit limit text.toList with
  | .ok (v, []) => some v
  | .error .splitCharacter => none
  | _ => some (.string text)

end SymbolDocs.Settings.EnvValue
