import SymbolDocs.Environment
import SymbolDocs.Files.FileSystem
import SymbolDocs.Text.Alphanumeric
import SymbolDocs.Text.Blank

namespace SymbolDocs

namespace Dotenv

/-- Where the cutter into lines stands. A line goes on while a quote is open, and behind a backslash
or white space at its end. -/
inductive LineState where
  | complete
  | blank
  | escape
  | strong
  | strongEscape
  | weak
  | weakEscape
  deriving DecidableEq

def LineState.next (s : LineState) (c : Char) : LineState :=
  let plain : LineState :=
    if c = '\\' then .escape else if c = '"' then .weak else if c = '\'' then .strong else .complete
  match s with
  | .complete => if Text.isBlank c && c != '\n' && c != '\r' then .blank else plain
  | .blank => plain
  | .escape => .complete
  | .strong => if c = '\\' then .strongEscape else if c = '\'' then .complete else .strong
  | .strongEscape => .strong
  | .weak => if c = '\\' then .weakEscape else if c = '"' then .complete else .weak
  | .weakEscape => .weak

def withoutBreak (backwards : List Char) : List Char :=
  match backwards with
  | '\n' :: '\r' :: r => r.reverse
  | '\n' :: r => r.reverse
  | r => r.reverse

/-- Cuts a text into logical lines. `read` is the line so far, backwards, and `isSkipped` says that
a comment has begun, which lasts to the end of the physical line. An unfinished last line is
malformed. -/
def lines (state : LineState) (read : List Char) (isSkipped : Bool) :
    List Char → List (Option (List Char))
  | [] =>
    if isSkipped then [some read.reverse]
    else if read.isEmpty && state == .complete then []
    else if state == .complete then [some read.reverse]
    else [none]
  | c :: r =>
    if isSkipped then
      if c = '\n' then some read.reverse :: lines .complete [] false r
      else lines state read true r
    else if c = '#' && (state == .blank || read.all Text.isBlank) then
      lines .complete (if read.all Text.isBlank then [] else read) true r
    else
      let state := state.next c
      if c = '\n' && state == .complete then
        some (withoutBreak (c :: read)) :: lines .complete [] false r
      else lines state (c :: read) false r

inductive Substitution where
  | none
  | bare (name : List Char)
  | braced (name : List Char)

structure ValueState where
  strong : Bool := false
  weak : Bool := false
  escaped : Bool := false
  atEnd : Bool := false
  substitution : Substitution := .none
  output : List Char := []

def lookup (env : Environment) (name : List Char) : List Char :=
  ((env.entry? (String.ofList name.reverse)).getD "").toList

def ValueState.finish (env : Environment) (s : ValueState) : Option String :=
  if s.strong || s.weak then none
  else match s.substitution with
    | .none => some (String.ofList s.output.reverse)
    | .bare name => some (String.ofList ((lookup env name).reverse ++ s.output).reverse)
    | .braced _ => none

/-- Reads a value. Single quotes keep everything, a backslash escapes, a `$` replaces a name, and
behind a space outside quotes only a comment may follow. -/
def value (env : Environment) (s : ValueState) : List Char → Option String
  | [] => s.finish env
  | c :: r =>
    if s.atEnd then
      if c = ' ' ∨ c = '\t' then value env s r
      else if c = '#' then s.finish env
      else none
    else if s.escaped then
      if c = '\\' ∨ c = '\'' ∨ c = '"' ∨ c = '$' ∨ c = ' ' then
        value env { s with escaped := false, output := c :: s.output } r
      else if c = 'n' then value env { s with escaped := false, output := '\n' :: s.output } r
      else none
    else if s.strong then
      if c = '\'' then value env { s with strong := false } r
      else value env { s with output := c :: s.output } r
    else match s.substitution with
      | .bare name =>
        if Text.isAlphanumeric c then value env { s with substitution := .bare (c :: name) } r
        else if c = '\x7b' && name.isEmpty then value env { s with substitution := .braced [] } r
        else
          let output := (lookup env name).reverse ++ s.output
          if c = '$' then value env { s with substitution := .bare [], output } r
          else value env { s with substitution := .none, output := c :: output } r
      | .braced name =>
        if c = '\x7d' then
          value env { s with
            substitution := .none, output := (lookup env name).reverse ++ s.output } r
        else value env { s with substitution := .braced (c :: name) } r
      | .none =>
        if c = '$' then value env { s with substitution := .bare [] } r
        else if s.weak then
          if c = '"' then value env { s with weak := false } r
          else if c = '\\' then value env { s with escaped := true } r
          else value env { s with output := c :: s.output } r
        else if c = '\'' then value env { s with strong := true } r
        else if c = '"' then value env { s with weak := true } r
        else if c = '\\' then value env { s with escaped := true } r
        else if c = ' ' ∨ c = '\t' then value env { s with atEnd := true } r
        else value env { s with output := c :: s.output } r

def isNameStart (c : Char) : Bool :=
  c.isAlpha || c == '_'

def isNameChar (c : Char) : Bool :=
  c.isAlphanum || c == '_' || c == '.'

def skipBlank (s : List Char) : List Char :=
  s.dropWhile Text.isBlank

def name (s : List Char) : Option (List Char × List Char) :=
  match s with
  | [] => none
  | c :: _ =>
    if isNameStart c then
      let name := s.takeWhile isNameChar
      some (name, s.drop name.length)
    else none

def assignment (s : List Char) : Option (List Char × List Char) := do
  let (first, r) ← name s
  match skipBlank r with
  | '=' :: r => return (first, r)
  | r =>
    if first = ['e', 'x', 'p', 'o', 'r', 't'] then
      let (second, r) ← name r
      match skipBlank r with
      | '=' :: r => return (second, r)
      | _ => none
    else none

inductive Line where
  | nothing
  | setting (name value : String)
  | malformed

def Line.ofText (env : Environment) (text : List Char) : Line :=
  match skipBlank (Text.trimEnd text) with
  | [] => .nothing
  | '#' :: _ => .nothing
  | s =>
    match assignment s with
    | none => .malformed
    | some (name, r) =>
      match skipBlank r with
      | [] => .setting (String.ofList name) ""
      | '#' :: _ => .setting (String.ofList name) ""
      | r =>
        match value env {} r with
        | none => .malformed
        | some v => .setting (String.ofList name) v

def applyLines? (env : Environment) : List (Option (List Char)) → Option Environment
  | [] => some env
  | none :: _ => some env
  | some line :: rest =>
    match Line.ofText env line with
    | .nothing => applyLines? env rest
    | .setting name v => (env.setNew? name v).bind fun env => applyLines? env rest
    | .malformed => some env

def find? (fs : FileSystem) : (dir : List String) → Option ByteArray
  | [] => match fs.entry? [".env"] with
    | some (.file content _) => some content
    | _ => none
  | name :: outer => match fs.entry? ((name :: outer).reverse ++ [".env"]) with
    | some (.file content _) => some content
    | _ => find? fs outer

def textLines (read : List UInt8) : List UInt8 → List Char
  | [] => match Text.ofUtf8? ⟨read.reverse.toArray⟩ with
    | some text => text.toList
    | none => []
  | b :: r =>
    if b = 0x0A then
      match Text.ofUtf8? ⟨(b :: read).reverse.toArray⟩ with
      | some text => text.toList ++ textLines [] r
      | none => []
    else textLines (b :: read) r

def load? (fs : FileSystem) (env : Environment) : Option Environment :=
  match find? fs fs.cwd.reverse with
  | none => some env
  | some bytes =>
    let s := match textLines [] bytes.data.toList with
      | '\uFEFF' :: r => r
      | s => s
    applyLines? env (lines .complete [] false s)

end Dotenv

end SymbolDocs
