import SymbolDocs.Script.Token
/-!
The grammar of scripts. A script is read one line at a time, because what comes before a fault is
still carried out.
-/

namespace SymbolDocs.Script

open Text (Octets)
open Reader (fail)

inductive ListKind where
  | line
  | body
  | optional
  | single
  deriving DecidableEq, Repr

abbrev Lists := ListKind → Reader (List Command)

def innerOf (lists : Lists) : Inner := fun isBracketed => do
  let outer := (← get).ahead
  modify fun s => { s with ahead := none }
  let body ← lists .optional
  if isBracketed then
    -- the list has looked at the token that ends it
    match (← get).ahead with
    | some .closing => pure ()
    | some t => unexpected t.titleAsKeyword (some Token.closing.title)
    | none => unexpected Token.finish.title (some Token.closing.title)
  modify fun s => { s with ahead := outer }
  return body

section

variable (lists : Lists)

def peekToken : Reader Token :=
  lookAhead (innerOf lists)

/-- The text that a word stands for where a command begins. A name does not count within its own
text. -/
def Source.aliasOf? (s : Source) (t : Token) : Option (Octets × Octets) :=
  match t, t.keyword? with
  | .word w, none => do
    let name ← w.bareText?
    if s.opened.any fun (n, left) => n == name && left ≤ s.rest.length then none
    else s.aliases.find? fun a => a.1 == name
  | _, _ => none

def peekCommand : Reader Token := do
  Reader.iterate (fun () => do
    let t ← peekToken lists
    let s ← get
    match s.aliasOf? t with
    | none => return .inr t
    | some (name, text) =>
      let blanks := (text.reverse.takeWhile isSpace).length
      set { s with
        rest := text ++ s.rest
        ahead := none
        opened := (name, s.rest.length) :: s.opened
        goesOn := if blanks = 0 then none else some (s.rest.length + blanks) }
      return .inl ()) (← Reader.bound) ()

def peekArgument : Reader Token := do
  let s ← get
  match s.ahead, s.goesOn with
  | none, some left =>
    if s.rest.length ≤ left then
      set { s with goesOn := none }
      peekCommand lists
    else peekToken lists
  | _, _ => peekToken lists

def skipBreaks : Reader Token := do
  Reader.iterate (fun () => do
    let t ← peekToken lists
    if t.isNewline then
      drop
      return .inl ()
    else return .inr t) (← Reader.bound) ()

def expect (keyword : String) : Reader Unit := do
  let t ← peekToken lists
  if t.keyword? = some keyword then drop
  else unexpected t.titleAsKeyword (some ("\"" ++ keyword ++ "\""))

def redirection (channel : Nat) (direction : Direction) (dropsTabs : Bool) :
    Reader Redirection := do
  match ← peekToken lists with
  | .word w =>
    drop
    let s ← get
    if direction = .document then
      let number := s.documents.size + s.announced.length
      let announced : Announced := ⟨w.unquoted, w.hasQuotes, dropsTabs⟩
      set { s with announced := s.announced ++ [announced] }
      return ⟨channel, direction, [], number⟩
    else return ⟨channel, direction, w, 0⟩
  | t => unexpected t.title none

def redirections : Reader (List Redirection) := do
  Reader.iterate (fun taken => do
    match ← peekToken lists with
    | .redirect channel direction dropsTabs =>
      drop
      return .inl (taken ++ [← redirection lists channel direction dropsTabs])
    | _ => return .inr taken) (← Reader.bound) []

structure SimpleParts where
  assignments : List (Octets × Word) := []
  words : List Word := []
  redirections : List Redirection := []

def specialNames : List String :=
  [".", ":", "break", "continue", "eval", "exec", "exit", "export", "local", "readonly", "return",
    "set", "shift", "times", "trap", "unset"]

def functionBody (name : Word) : Reader Command := do
  match ← peekToken lists with
  | .closing => drop
  | t => unexpected t.title (some Token.closing.title)
  match name.bareText? with
  | some text =>
    if isName text ∧ ¬ specialNames.contains (String.ofList text) then
      let _ ← skipBreaks lists
      match ← lists .single with
      | [body] => return .define text body
      | body => return .define text (.group body)
    else fail "Bad function name"
  | none => fail "Bad function name"

/-- A simple command, or the definition of a function that looks like one at first. -/
def simpleCommand : Reader Command := do
  let _ ← peekToken lists
  let line := (← get).line
  Reader.iterate (fun (p : SimpleParts) => do
    match ← if p.words.isEmpty then peekCommand lists else peekArgument lists with
    | .word w =>
      drop
      match p.words, w.assignment? with
      | [], some a => return .inl { p with assignments := p.assignments ++ [a] }
      | _, _ => return .inl { p with words := p.words ++ [w] }
    | .redirect channel direction dropsTabs =>
      drop
      let r ← redirection lists channel direction dropsTabs
      return .inl { p with redirections := p.redirections ++ [r] }
    | .opening =>
      match p with
      | ⟨[], [name], []⟩ =>
        drop
        return .inr (← functionBody lists name)
      | p => return .inr (.simple line p.assignments p.words p.redirections)
    | _ => return .inr (.simple line p.assignments p.words p.redirections)) (← Reader.bound) {}

def choice : Reader Command := do
  let branches ← Reader.iterate (fun (taken : List (List Command × List Command)) => do
    let condition ← lists .body
    expect lists "then"
    let yes ← lists .body
    let taken := (condition, yes) :: taken
    if (← peekToken lists).keyword? = some "elif" then
      drop
      return .inl taken
    else return .inr taken) (← Reader.bound) []
  let no ← if (← peekToken lists).keyword? = some "else" then
      drop
      lists .body
    else pure []
  expect lists "fi"
  match branches.foldl (fun no (condition, yes) => [Command.choice condition yes no]) no with
  | [c] => return c
  | cs => return .group cs

def loop (goal : Bool) : Reader Command := do
  let condition ← lists .body
  expect lists "do"
  let body ← lists .body
  expect lists "done"
  return .loop goal condition body

def words : Reader (List Word) := do
  Reader.iterate (fun taken => do
    match ← peekToken lists with
    | .word w =>
      drop
      return .inl (taken ++ [w])
    | _ => return .inr taken) (← Reader.bound) []

def each (line : Nat) : Reader Command := do
  let name ← match ← peekToken lists with
    | .word w => match w.bareText? with
      | some text => if isName text then pure text else fail "Bad for loop variable"
      | none => fail "Bad for loop variable"
    | _ => fail "Bad for loop variable"
  drop
  let t ← skipBreaks lists
  let items ← if t.keyword? = some "in" then do
      drop
      let items ← words lists
      match ← peekToken lists with
      | .newline | .semicolon => drop
      | t => unexpected t.title none
      pure (some items)
    else do
      match t with
      | .semicolon => drop
      | _ => pure ()
      pure none
  let _ ← skipBreaks lists
  expect lists "do"
  let body ← lists .body
  expect lists "done"
  return .each line name items body

def patterns : Reader (List Word) := do
  Reader.iterate (fun taken => do
    match ← peekToken lists with
    | .word w =>
      drop
      match ← peekToken lists with
      | .pipe =>
        drop
        return .inl (taken ++ [w])
      | .closing =>
        drop
        return .inr (taken ++ [w])
      | t => unexpected t.title (some Token.closing.title)
    | t => unexpected t.title (some Token.closing.title)) (← Reader.bound) []

def select (line : Nat) : Reader Command := do
  let subject ← match ← peekToken lists with
    | .word w => pure w
    | t => unexpected t.title (some "word")
  drop
  let _ ← skipBreaks lists
  expect lists "in"
  let clauses ← Reader.iterate (fun (taken : List (List Word × List Command)) => do
    let t ← skipBreaks lists
    if t.keyword? = some "esac" then
      drop
      return .inr taken
    else
      match t with
      | .opening => drop
      | _ => pure ()
      let ps ← patterns lists
      let body ← lists .optional
      let taken := taken ++ [(ps, body)]
      match ← skipBreaks lists with
      | .clauseEnd =>
        drop
        return .inl taken
      | t =>
        if t.keyword? = some "esac" then return .inl taken
        else unexpected t.titleAsKeyword (some Token.clauseEnd.title)) (← Reader.bound) []
  return .select line subject clauses

def withRedirections (line : Nat) (c : Command) : Reader Command := do
  match c, ← redirections lists with
  | c, [] => return c
  | .subshell line body _, rs => return .subshell line body rs
  | c, rs => return .redirected line c rs

def command : Reader Command := do
  let t ← peekCommand lists
  let line := (← get).line
  match t, t.keyword? with
  | _, some "if" =>
    drop
    withRedirections lists line (← choice lists)
  | _, some "while" =>
    drop
    withRedirections lists line (← loop lists true)
  | _, some "until" =>
    drop
    withRedirections lists line (← loop lists false)
  | _, some "for" =>
    drop
    withRedirections lists line (← each lists line)
  | _, some "case" =>
    drop
    withRedirections lists line (← select lists line)
  | _, some "\x7b" =>
    drop
    let body ← lists .body
    expect lists "\x7d"
    withRedirections lists line (.group body)
  | .opening, _ =>
    drop
    let body ← lists .body
    match ← peekToken lists with
    | .closing => drop
    | t => unexpected t.titleAsKeyword (some Token.closing.title)
    withRedirections lists line (.subshell line body [])
  | .word _, none | .redirect _ _ _, _ => simpleCommand lists
  | t, _ => unexpected t.titleAsKeyword none

def pipeline : Reader Command := do
  let isNegated := (← peekCommand lists).keyword? = some "!"
  if isNegated then drop
  let first ← command lists
  let stages ← Reader.iterate (fun taken => do
    match ← peekToken lists with
    | .pipe =>
      drop
      let _ ← skipBreaks lists
      return .inl (taken ++ [← command lists])
    | _ => return .inr taken) (← Reader.bound) [first]
  let whole := match stages with
    | [c] => c
    | stages => .pipeline stages
  return if isNegated then .not whole else whole

def chain : Reader Command := do
  let first ← pipeline lists
  Reader.iterate (fun c => do
    match ← peekToken lists with
    | .and =>
      drop
      let _ ← skipBreaks lists
      return .inl (.and c (← pipeline lists))
    | .or =>
      drop
      let _ ← skipBreaks lists
      return .inl (.or c (← pipeline lists))
    | _ => return .inr c) (← Reader.bound) first

def ListKind.endsAt (kind : ListKind) (taken : List Command) (t : Token) : Bool :=
  match t with
  | .newline | .finish => true
  | t => t.endsList && (kind == .optional || (kind == .body && !taken.isEmpty))

def listStep (kind : ListKind) (taken : List Command) :
    Reader (List Command ⊕ List Command) := do
  let t ← if kind = .line then peekToken lists else skipBreaks lists
  if kind.endsAt taken t then
    if t.isNewline then drop
    return .inr taken
  else
    let c ← chain lists
    match ← peekToken lists with
    | .semicolon =>
      drop
      return .inl (taken ++ [c])
    | .ampersand =>
      drop
      return .inl (taken ++ [.background c])
    | .newline => return .inl (taken ++ [c])
    | .finish => return .inr (taken ++ [c])
    | t =>
      if kind = .line then unexpected t.titleAsKeyword none
      else return .inr (taken ++ [c])

/-- A list of commands up to what ends it, which stays. A line takes its break away. -/
def listOf (kind : ListKind) : Reader (List Command) := do
  if kind = .single then return [← command lists]
  else Reader.iterate (listStep lists kind) (← Reader.bound) []

end

def lists : (depth : Nat) → Lists
  | 0, _ => fail "nested too deeply"
  | depth + 1, kind => listOf (lists depth) kind

def nextLine (s : Source) : Except Fault (Option (List Command) × Source) :=
  let depth := s.size + 1
  match (peekToken (lists depth)).run s with
  | .error f => .error f
  | .ok (.finish, s) => .ok (none, s)
  | .ok (_, s) => do
    let (body, s) ← (lists (depth + 1) .line).run s
    return (some body, s)

end SymbolDocs.Script
