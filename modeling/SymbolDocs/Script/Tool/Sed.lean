import SymbolDocs.Script.Regex.Parse
import SymbolDocs.Script.Tool.Basic

namespace SymbolDocs.Script.Tool

open Text (Octets)

namespace Sed

inductive Address where
  | line (number : Nat)
  | last
  | step (first every : Nat)
  | pattern (regex : Option Regex) (ignoresCase : Bool)

inductive RangeEnd where
  | address (a : Address)
  | more (lines : Nat)
  | multiple (of : Nat)

inductive LetterCase where
  | keep
  | upper
  | lower
  deriving DecidableEq

inductive ReplacementPart where
  | text (t : Octets)
  | group (number : Nat)
  | setCase (c : LetterCase)
  | nextCase (c : LetterCase)

structure Substitution where
  regex : Option Regex
  ignoresCase : Bool
  replacement : List ReplacementPart
  isGlobal : Bool := false
  occurrence : Nat := 1
  prints : Bool := false
  file : Option Octets := none

inductive Action where
  | block (skipTo : Nat)
  | nothing
  | delete
  | deleteFirst
  | print
  | printFirst
  | quit (status : Nat) (isSilent : Bool)
  | number
  | append (text : Octets)
  | insert (text : Octets)
  | change (text : Octets)
  | next
  | nextAppended
  | hold
  | holdAppended
  | get
  | getAppended
  | exchange
  | substitute (s : Substitution)
  | recode (pairs : List (Char × Char))
  | branch (label : Octets)
  | branchIfChanged (label : Octets)
  | branchUnlessChanged (label : Octets)
  | label (name : Octets)
  | readFile (name : Octets)
  | writeFile (name : Octets)
  | empty
  | showPlainly (width : Option Nat)

structure Command where
  first : Option Address := none
  second : Option RangeEnd := none
  isNegated : Bool := false
  action : Action

structure Program where
  chars : List Char
  size : Nat

structure Fault where
  position : Nat
  reason : String

def Program.fault (p : Program) (reason : String) : Except Fault α :=
  .error ⟨p.size - p.chars.length, reason⟩

def Program.skipBlanks (p : Program) : Program :=
  { p with chars := p.chars.dropWhile fun c => c == ' ' || c == '\t' }

inductive SetPlace where
  | outside
  | start
  | negated
  | inside
  | named
  | namedEnd
  deriving DecidableEq

def SetPlace.after (place : SetPlace) (c : Char) (rest : List Char) : SetPlace :=
  let isMark (c : Char) : Bool := c == ':' || c == '.' || c == '='
  let within : SetPlace :=
    if c = '[' && (rest.head?.map isMark).getD false then .named else .inside
  match place with
  | outside => if c = '[' then .start else .outside
  | start => if c = '^' then .negated else within
  | negated => within
  | inside => if c = ']' then .outside else within
  | named => if isMark c && rest.head? = some ']' && rest.length ≠ 0 then .namedEnd else .named
  | namedEnd => .inside

/-- The stretch up to a delimiter that is not escaped and stands in no set. An escaped delimiter
loses its backslash. -/
def delimited (d : Char) (isPattern : Bool) : SetPlace → List Char →
    Option (List Char × List Char)
  | _, [] => none
  | .outside, '\\' :: c :: r =>
    (delimited d isPattern .outside r).map fun (s, t) =>
      (if c = d && (isPattern || c != '&') then c :: s else '\\' :: c :: s, t)
  | place, c :: r =>
    if c = d && place = .outside then some ([], r)
    else if c = '\n' && isPattern then none
    else
      let next := if isPattern then place.after c r else .outside
      (delimited d isPattern next r).map fun (s, t) => (c :: s, t)

def regexOf (isExtended : Bool) (text : Octets) : Except String (Option Regex) :=
  if text.isEmpty then .ok none else (Regex.parse ⟨isExtended, true, true⟩ text).map some

def address? (isExtended : Bool) (p : Program) : Except Fault (Option Address × Program) :=
  let pattern (d : Char) (r : List Char) : Except Fault (Option Address × Program) :=
    match delimited d true .outside r with
    | none => { p with chars := [] }.fault "unterminated address regex"
    | some (text, rest) =>
      let (ignoresCase, rest) := match rest with
        | 'I' :: t => (true, t)
        | t => (false, t)
      match regexOf isExtended text with
      | .ok regex => .ok (some (.pattern regex ignoresCase), { p with chars := rest })
      | .error e => { p with chars := rest }.fault e
  match p.chars with
  | '$' :: r => .ok (some .last, { p with chars := r })
  | '/' :: r => pattern '/' r
  | '\\' :: d :: r => pattern d r
  | cs =>
    let ds := cs.takeWhile Char.isDigit
    match natural? ds, cs.drop ds.length with
    | none, _ => .ok (none, p)
    | some n, '~' :: r =>
      let es := r.takeWhile Char.isDigit
      .ok (some (.step n ((natural? es).getD 0)), { p with chars := r.drop es.length })
    | some n, r => .ok (some (.line n), { p with chars := r })

def rangeEnd (isExtended : Bool) (p : Program) : Except Fault (RangeEnd × Program) :=
  let counted (r : List Char) (make : Nat → RangeEnd) : Except Fault (RangeEnd × Program) :=
    let ds := r.takeWhile Char.isDigit
    .ok (make ((natural? ds).getD 0), { p with chars := r.drop ds.length })
  match p.chars with
  | '+' :: r => counted r .more
  | '~' :: r => counted r .multiple
  | _ => do
    match ← address? isExtended p with
    | (some a, p) => .ok (.address a, p)
    | (none, p) => p.fault "unexpected ','"

def replacementParts : (fuel : Nat) → List Char → List ReplacementPart
  | 0, _ => []
  | _ + 1, [] => []
  | fuel + 1, c :: r =>
    let text (t : Octets) (rest : List Char) : List ReplacementPart :=
      .text t :: replacementParts fuel rest
    match c, r with
    | '&', r => .group 0 :: replacementParts fuel r
    | '\\', d :: r' =>
      if d.isDigit then .group (d.toNat - '0'.toNat) :: replacementParts fuel r'
      else match d with
        | 'n' => text ['\n'] r'
        | 't' => text ['\t'] r'
        | 'f' => text ['\x0c'] r'
        | 'v' => text ['\x0b'] r'
        | 'a' => text ['\x07'] r'
        | 'r' => text ['\r'] r'
        | 'U' => .setCase .upper :: replacementParts fuel r'
        | 'L' => .setCase .lower :: replacementParts fuel r'
        | 'E' => .setCase .keep :: replacementParts fuel r'
        | 'u' => .nextCase .upper :: replacementParts fuel r'
        | 'l' => .nextCase .lower :: replacementParts fuel r'
        | d => text [d] r'
    | c, r => text [c] r

def highestGroup (parts : List ReplacementPart) : Nat :=
  parts.foldl (fun n p => match p with
    | .group m => max n m
    | _ => n) 0

def substitutionFlags :
    (fuel : Nat) → Substitution → Program → Except Fault (Substitution × Program)
  | 0, s, p => .ok (s, p)
  | fuel + 1, s, p =>
    match p.chars with
    | 'g' :: r => substitutionFlags fuel { s with isGlobal := true } { p with chars := r }
    | 'p' :: r => substitutionFlags fuel { s with prints := true } { p with chars := r }
    | 'i' :: r | 'I' :: r =>
      substitutionFlags fuel { s with ignoresCase := true } { p with chars := r }
    | 'm' :: r | 'M' :: r => substitutionFlags fuel s { p with chars := r }
    | 'w' :: r =>
      let name := (r.dropWhile (· == ' ')).takeWhile (· != '\n')
      .ok ({ s with file := some name }, { p with chars := r.dropWhile (· != '\n') })
    | c :: r =>
      if c.isDigit then
        let ds := (c :: r).takeWhile Char.isDigit
        let n := (natural? ds).getD 1
        if n = 0 then p.fault "number option to `s' command may not be zero"
        else
          substitutionFlags fuel { s with occurrence := n }
            { p with chars := (c :: r).drop ds.length }
      else if [';', '\n', '\x7d', '#', ' ', '\t'].contains c then .ok (s, p)
      else { p with chars := r }.fault "unknown option to `s'"
    | [] => .ok (s, p)

def substitution (isExtended : Bool) (p : Program) : Except Fault (Substitution × Program) :=
  match p.chars with
  | [] => p.fault "unterminated `s' command"
  | d :: r =>
    match delimited d true .outside r with
    | none => { p with chars := [] }.fault "unterminated `s' command"
    | some (pattern, r) =>
      match delimited d false .outside r with
      | none => { p with chars := [] }.fault "unterminated `s' command"
      | some (replacement, r) => do
        let parts := replacementParts (replacement.length + 1) replacement
        let (s, p) ← substitutionFlags (r.length + 1) ⟨none, false, parts, false, 1, false, none⟩
          { p with chars := r }
        match regexOf isExtended pattern with
        | .error e => p.fault e
        | .ok regex =>
          let highest := highestGroup parts
          let count := (regex.map Regex.groupCount).getD 9
          if count < highest then
            p.fault ("invalid reference \\" ++ toString highest ++ " on `s' command's RHS")
          else .ok ({ s with regex }, p)

def recodingChars : List Char → List Char
  | '\\' :: 'n' :: r => '\n' :: recodingChars r
  | '\\' :: 't' :: r => '\t' :: recodingChars r
  | '\\' :: c :: r => c :: recodingChars r
  | c :: r => c :: recodingChars r
  | [] => []

def recoding (p : Program) : Except Fault (Action × Program) :=
  match p.chars with
  | [] => p.fault "unterminated `y' command"
  | d :: r =>
    match delimited d false .outside r with
    | none => { p with chars := [] }.fault "unterminated `y' command"
    | some (sources, r) => match delimited d false .outside r with
      | none => { p with chars := [] }.fault "unterminated `y' command"
      | some (targets, r) =>
        let sources := recodingChars sources
        let targets := recodingChars targets
        let p := { p with chars := r }
        if sources.length ≠ targets.length then
          p.fault "strings for `y' command are different lengths"
        else .ok (.recode (sources.zip targets), p)

def textLines : (fuel : Nat) → List Char → Octets × List Char
  | 0, r => ([], r)
  | _ + 1, [] => ([], [])
  | _ + 1, '\n' :: r => ([], r)
  | fuel + 1, '\\' :: c :: r =>
    let (t, rest) := textLines fuel r
    (c :: t, rest)
  | fuel + 1, c :: r =>
    let (t, rest) := textLines fuel r
    (c :: t, rest)

def insertedText (p : Program) : Except Fault (Octets × Program) :=
  let start := match p.skipBlanks.chars with
    | '\\' :: r =>
      match r.dropWhile fun c => c == ' ' || c == '\t' with
      | '\n' :: t => t
      | _ => r
    | r => r
  if start.isEmpty then p.fault "expected \\ after `a', `c' or `i'"
  else
    let (text, rest) := textLines (start.length + 1) start
    .ok (text ++ ['\n'], { p with chars := rest })

def nameOf (endsAtSemicolon : Bool) (p : Program) : Octets × Program :=
  let p := p.skipBlanks
  let name := p.chars.takeWhile fun c =>
    c != '\n' && !(endsAtSemicolon && (c == ';' || c == '\x7d'))
  let bare := (name.reverse.dropWhile (· == ' ')).reverse
  (bare, { p with chars := p.chars.drop name.length })

def endOfCommand (p : Program) : Except Fault Program :=
  let p := p.skipBlanks
  match p.chars with
  | [] => .ok p
  | ';' :: r | '\n' :: r => .ok { p with chars := r }
  | '\x7d' :: _ | '#' :: _ => .ok p
  | _ :: r => { p with chars := r }.fault "extra characters after command"

def actionOf (isExtended : Bool) (p : Program) : Except Fault (Action × Program) :=
  let simple (a : Action) (r : List Char) : Except Fault (Action × Program) := do
    .ok (a, ← endOfCommand { p with chars := r })
  let named (make : Octets → Action) (endsAtSemicolon : Bool) (r : List Char) :
      Except Fault (Action × Program) := do
    let (name, p) := nameOf endsAtSemicolon { p with chars := r }
    .ok (make name, ← endOfCommand p)
  let inserted (make : Octets → Action) (r : List Char) : Except Fault (Action × Program) := do
    let (text, p) ← insertedText { p with chars := r }
    .ok (make text, p)
  let quits (isSilent : Bool) (r : List Char) : Except Fault (Action × Program) := do
    let q := { p with chars := r }.skipBlanks
    let ds := q.chars.takeWhile Char.isDigit
    let p ← endOfCommand { q with chars := q.chars.drop ds.length }
    .ok (.quit ((natural? ds).getD 0) isSilent, p)
  match p.chars with
  | [] => p.fault "missing command"
  | c :: r => match c with
    | '\x7b' => .ok (.block 0, { p with chars := r })
    | '\x7d' => simple .nothing r
    | 'd' => simple .delete r
    | 'D' => simple .deleteFirst r
    | 'p' => simple .print r
    | 'P' => simple .printFirst r
    | 'q' => quits false r
    | 'Q' => quits true r
    | '=' => simple .number r
    | 'a' => inserted .append r
    | 'i' => inserted .insert r
    | 'c' => inserted .change r
    | 'n' => simple .next r
    | 'N' => simple .nextAppended r
    | 'h' => simple .hold r
    | 'H' => simple .holdAppended r
    | 'g' => simple .get r
    | 'G' => simple .getAppended r
    | 'x' => simple .exchange r
    | 'z' => simple .empty r
    | 'l' =>
      let ds := r.takeWhile Char.isDigit
      simple (.showPlainly (natural? ds)) (r.drop ds.length)
    | 's' => do
      let (s, p) ← substitution isExtended { p with chars := r }
      .ok (.substitute s, ← endOfCommand p)
    | 'y' => do
      let (a, p) ← recoding { p with chars := r }
      .ok (a, ← endOfCommand p)
    | 'b' => named .branch true r
    | 't' => named .branchIfChanged true r
    | 'T' => named .branchUnlessChanged true r
    | ':' => named .label true r
    | 'r' => named .readFile false r
    | 'w' => named .writeFile false r
    | c => { p with chars := r }.fault ("unknown command: `" ++ String.ofList [c] ++ "'")

def commandOf (isExtended : Bool) (p : Program) : Except Fault (Command × Program) := do
  let (first, p) ← address? isExtended p
  let p := p.skipBlanks
  let (second, p) ← match first, p.chars with
    | some _, ',' :: r => do
      let (e, p) ← rangeEnd isExtended { p with chars := r }.skipBlanks
      .ok (some e, p)
    | _, _ => .ok (none, p)
  let p := p.skipBlanks
  let (isNegated, p) := match p.chars with
    | '!' :: r => (true, { p with chars := r }.skipBlanks)
    | _ => (false, p)
  let (action, p) ← actionOf isExtended p
  .ok ({ first, second, isNegated, action }, p)

def commandsOf (isExtended : Bool) : (fuel : Nat) → Program → Except Fault (List Command)
  | 0, _ => .ok []
  | fuel + 1, p =>
    let rest := p.chars.dropWhile fun c => c == ' ' || c == '\t' || c == '\n' || c == ';'
    match rest with
    | [] => .ok []
    | '#' :: r => commandsOf isExtended fuel { p with chars := r.dropWhile (· != '\n') }
    | rest => do
      let (c, p) ← commandOf isExtended { p with chars := rest }
      let cs ← commandsOf isExtended fuel p
      .ok (c :: cs)

def blockEnd : (depth at_ : Nat) → List Command → Option Nat
  | _, _, [] => none
  | depth, at_, c :: rest => match c.action with
    | .block _ => blockEnd (depth + 1) (at_ + 1) rest
    | .nothing => if depth = 0 then some at_ else blockEnd (depth - 1) (at_ + 1) rest
    | _ => blockEnd depth (at_ + 1) rest

def withBlockEnds : (at_ : Nat) → List Command → Option (List Command)
  | _, [] => some []
  | at_, c :: rest => do
    let c ← match c.action with
      | .block _ => (blockEnd 0 (at_ + 1) rest).map fun stop => { c with action := .block stop }
      | _ => some c
    (withBlockEnds (at_ + 1) rest).map (c :: ·)

def parse (isExtended : Bool) (text : Octets) : Except Fault (List Command) := do
  let cs ← commandsOf isExtended (text.length + 1) ⟨text, text.length⟩
  let opened := (cs.filter fun c => match c.action with
    | .block _ => true
    | _ => false).length
  let closed := (cs.filter fun c => match c.action with
    | .nothing => true
    | _ => false).length
  if opened < closed then .error ⟨text.length, "unexpected `\x7d'"⟩
  else match withBlockEnds 0 cs with
    | some cs => .ok cs
    | none => .error ⟨0, "unmatched `\x7b'"⟩

abbrev Line := Octets × Bool

structure State where
  rest : List Line
  pattern : Octets := []
  hasBreak : Bool := true
  held : Octets := []
  number : Nat := 0
  isChanged : Bool := false
  lastRegex : Option Regex := none
  ranges : List (Nat × Option Nat) := []
  queue : List Octets := []
  output : List Octets := []
  owesBreak : Bool := false
  files : List (Octets × Octets) := []
  status : Nat := 0

namespace State

def put (s : State) (text : Octets) (hasBreak : Bool) : State :=
  let start := if s.owesBreak then ['\n'] else []
  { s with
    output := (start ++ text ++ (if hasBreak then ['\n'] else [])) :: s.output
    owesBreak := !hasBreak }

def putText (s : State) (text : Octets) : State :=
  let start := if s.owesBreak then ['\n'] else []
  { s with output := (start ++ text) :: s.output, owesBreak := false }

def putPattern (s : State) : State := s.put s.pattern s.hasBreak

def isLast (s : State) : Bool := s.rest.isEmpty

def putInto (s : State) (name text : Octets) : State :=
  if name = "/dev/stdout".toList then s.putText text
  else
    { s with files := match s.files.find? fun f => f.1 == name with
      | some (_, before) => (name, before ++ text) :: s.files.filter fun f => f.1 != name
      | none => (name, text) :: s.files }

def advance (s : State) : Option State :=
  match s.rest with
  | [] => none
  | (line, hasBreak) :: rest =>
    some { s with rest, pattern := line, hasBreak, number := s.number + 1 }

def flush (s : State) : State :=
  { s.queue.foldl putText s with queue := [] }

end State

def usedRegex (s : State) (r : Option Regex) : Option Regex :=
  match r with
  | some r => some r
  | none => s.lastRegex

def matchesAddress (s : State) : Address → Bool × State
  | .line n => (s.number == n, s)
  | .last => (s.isLast, s)
  | .step first every =>
    (if every = 0 then s.number == first
      else first ≤ s.number && (s.number - first) % every == 0, s)
  | .pattern regex ignoresCase =>
    match usedRegex s regex with
    | none => (false, s)
    | some r => (r.occursIn ignoresCase s.pattern, { s with lastRegex := some r })

/-- Where a range ends that begins on this line, if that can be told from the line number. -/
def knownEnd (s : State) : RangeEnd → Option Nat
  | .address (.line n) => some n
  | .more n => some (s.number + n)
  | .multiple n => some (if n = 0 then s.number else (s.number + n - 1) / n * n)
  | .address _ => none

def isMeant (index : Nat) (c : Command) (s : State) : Bool × State :=
  match c.first, c.second with
  | none, _ => (true, s)
  | some a, none => matchesAddress s a
  | some a, some stop =>
    let leave (s : State) : State :=
      { s with ranges := s.ranges.filter fun r => r.1 != index }
    match s.ranges.find? fun r => r.1 == index with
    | some (_, some n) =>
      if n ≤ s.number then
        -- a range whose end has gone by ends here, or was over before
        if s.number = n then (true, leave s)
        else
          let s := leave s
          let (isFirst, s) := matchesAddress s a
          (isFirst, s)
      else (true, s)
    | some (_, none) =>
      match stop with
      | .address e =>
        let (isEnd, s) := matchesAddress s e
        (true, if isEnd then leave s else s)
      | _ => (true, leave s)
    | none =>
      -- a range from line zero has begun before the first line
      let (begins, s) : Bool × State := match a with
        | .line 0 => (s.number == 1, s)
        | a => matchesAddress s a
      if !begins then (false, s)
      else match a, stop, knownEnd s stop with
        | .line 0, .address e, none =>
          let (isEnd, s) := matchesAddress s e
          (true, if isEnd then s else { s with ranges := (index, none) :: s.ranges })
        | _, .address .last, none =>
          (true, if s.isLast then s else { s with ranges := (index, none) :: s.ranges })
        | _, _, some n =>
          (true, if n ≤ s.number then s else { s with ranges := (index, some n) :: s.ranges })
        | _, _, none => (true, { s with ranges := (index, none) :: s.ranges })

def applyCase (c : LetterCase) (t : Octets) : Octets :=
  match c with
  | .keep => t
  | .upper => t.map Char.toUpper
  | .lower => t.map Char.toLower

def filled (found : Octets) (groups : Spot) :
    (all : LetterCase) → (next : LetterCase) → List ReplacementPart → Octets
  | _, _, [] => []
  | all, next, p :: ps =>
    let add (t : Octets) : Octets :=
      let t := applyCase all t
      match t, next with
      | [], _ => filled found groups all next ps
      | t, .keep => t ++ filled found groups all .keep ps
      | t, n => applyCase n (t.take 1) ++ t.drop 1 ++ filled found groups all .keep ps
    match p with
    | .text t => add t
    | .group 0 => add found
    | .group n => add ((groups.group? n).getD [])
    | .setCase c => filled found groups c .keep ps
    | .nextCase c => filled found groups all c ps

def replaced (sub : Substitution) : (index : Nat) → (here : Spot) → List (Spot × Spot) → Octets
  | _, here, [] => here.after
  | index, here, (a, b) :: rest =>
    let found := a.textTo b
    let counts := if sub.isGlobal then sub.occurrence ≤ index else index == sub.occurrence
    let middle := if counts then filled found b .keep .keep sub.replacement else found
    here.textTo a ++ middle ++ replaced sub (index + 1) b rest

def substitute (sub : Substitution) (s : State) : State :=
  match usedRegex s sub.regex with
  | none => s
  | some r =>
    let s := { s with lastRegex := some r }
    let all := r.allIn sub.ignoresCase s.pattern
    if all.length < sub.occurrence then s
    else
      let pattern := replaced sub 1 (.ofText s.pattern) all
      let s := { s with pattern, isChanged := true }
      let s := if sub.prints then s.putPattern else s
      match sub.file with
      | some name => s.putInto name (s.pattern ++ ['\n'])
      | none => s

def plainChar (c : Char) : Octets :=
  match c with
  | '\\' => ['\\', '\\']
  | '\n' => ['\\', 'n']
  | '\t' => ['\\', 't']
  | '\r' => ['\\', 'r']
  | '\x07' => ['\\', 'a']
  | '\x08' => ['\\', 'b']
  | '\x0b' => ['\\', 'v']
  | '\x0c' => ['\\', 'f']
  | c =>
    if isPrintable c then [c]
    else
      let ds := Nat.toDigits 8 c.toNat
      '\\' :: List.replicate (3 - ds.length) '0' ++ ds

def plainLine (width : Nat) (line : Octets) : Octets :=
  let rec go (column : Nat) : List Char → Octets
    | [] => ['$', '\n']
    | c :: r =>
      let shown := plainChar c
      if 1 < width && width - 1 < column + shown.length then
        '\\' :: '\n' :: shown ++ go shown.length r
      else shown ++ go (column + shown.length) r
  go 0 line

inductive Flow where
  | goOn (at_ : Nat)
  | endCycle (puts : Bool)
  | restart
  | stop (puts : Bool)

def labelPlace (program : Array Command) (name : Octets) : Nat :=
  if name.isEmpty then program.size
  else (program.findIdx? fun c => match c.action with
    | .label l => l == name
    | _ => false).getD program.size

def perform (program : Array Command) (isQuiet : Bool) (content : Octets → Option Octets)
    (at_ : Nat) (c : Command) (s : State) : Flow × State :=
  let next := Flow.goOn (at_ + 1)
  let firstLine := s.pattern.takeWhile (· != '\n')
  match c.action with
  | .block _ | .nothing | .label _ => (next, s)
  | .delete => (.endCycle false, s)
  | .deleteFirst =>
    if s.pattern.contains '\n' then
      (.restart, { s with pattern := s.pattern.drop (firstLine.length + 1) })
    else (.endCycle false, s)
  | .print => (next, s.putPattern)
  | .printFirst => (next, s.put firstLine true)
  | .quit status isSilent => (.stop (!isSilent), { s with status })
  | .number => (next, s.putText (decimal s.number ++ ['\n']))
  | .append text => (next, { s with queue := s.queue ++ [text] })
  | .insert text => (next, s.putText text)
  | .change text =>
    let isInside := c.second.isSome && !c.isNegated && s.ranges.any fun r => r.1 == at_
    (.endCycle false, if isInside then s else s.putText text)
  | .next =>
    if s.isLast then (.stop true, s)
    else
      let s := if isQuiet then s else s.putPattern
      (next, (s.flush.advance).getD s)
  | .nextAppended =>
    if s.isLast then (.stop true, s)
    else
      let before := s.pattern
      match s.flush.advance with
      | some t => (next, { t with pattern := before ++ '\n' :: t.pattern })
      | none => (.stop true, s)
  | .hold => (next, { s with held := s.pattern })
  | .holdAppended => (next, { s with held := s.held ++ '\n' :: s.pattern })
  | .get => (next, { s with pattern := s.held })
  | .getAppended => (next, { s with pattern := s.pattern ++ '\n' :: s.held })
  | .exchange => (next, { s with pattern := s.held, held := s.pattern })
  | .empty => (next, { s with pattern := [] })
  | .showPlainly width => (next, s.putText (plainLine (width.getD 70) s.pattern))
  | .substitute sub => (next, substitute sub s)
  | .recode pairs =>
    (next, { s with pattern := s.pattern.map fun c =>
      ((pairs.find? fun p => p.1 == c).map (·.2)).getD c })
  | .branch label => (.goOn (labelPlace program label), s)
  | .branchIfChanged label =>
    if s.isChanged then (.goOn (labelPlace program label), { s with isChanged := false })
    else (next, s)
  | .branchUnlessChanged label =>
    if s.isChanged then (next, { s with isChanged := false })
    else (.goOn (labelPlace program label), s)
  | .readFile name => match content name with
    | some text => (next, { s with queue := s.queue ++ [text] })
    | none => (next, s)
  | .writeFile name => (next, s.putInto name (s.pattern ++ ['\n']))

def run (program : Array Command) (isQuiet : Bool) (content : Octets → Option Octets) :
    (fuel : Nat) → (at_ : Nat) → State → State
  | 0, _, s => s
  | fuel + 1, at_, s =>
    let finish (puts : Bool) (s : State) : State :=
      (if puts && !isQuiet then s.putPattern else s).flush
    let newCycle (s : State) : State :=
      match s.advance with
      | none => s
      | some s => run program isQuiet content fuel 0 { s with isChanged := false }
    match program[at_]? with
    | none => newCycle (finish true s)
    | some c =>
      let (isMeant, s) := isMeant at_ c s
      if isMeant == c.isNegated then
        let after := match c.action with
          | .block stop => stop + 1
          | _ => at_ + 1
        run program isQuiet content fuel after s
      else
        let (flow, s) := perform program isQuiet content at_ c s
        match flow with
        | .goOn at_ => run program isQuiet content fuel at_ s
        | .endCycle puts => newCycle (finish puts s)
        | .restart => run program isQuiet content fuel 0 (finish false s)
        | .stop puts => finish puts { s with rest := [] }

def linesOf (text : Octets) : List Line :=
  let ls := lines text
  let isComplete := text.getLast? == some '\n'
  ls.zipIdx.map fun (l, i) => (l, isComplete || i + 1 != ls.length)

def stepLimit : Nat := 1000000

def edit (program : List Command) (isQuiet : Bool) (content : Octets → Option Octets)
    (input : List Line) : State :=
  let start : State := { rest := input }
  match start.advance with
  | none => start
  | some s => run program.toArray isQuiet content stepLimit 0 s

end Sed

def sedInput (operands : List Octets) : Job (List Sed.Line) := do
  let operands := if operands.isEmpty then [['-']] else operands
  let texts ← operands.mapM fun name => do
    match ← readOperand name with
    | .ok text => return Sed.linesOf text
    | .error e =>
      if e = .isADirectory then
        Job.complain 2 (Octets.ofText "couldn't read " ++ name ++ Octets.ofText (": " ++ e.reason))
      else
        Job.complain 2 (Octets.ofText "can't read " ++ name ++ Octets.ofText (": " ++ e.reason))
      return []
  return texts.flatten

def sedRun (program : List Sed.Command) (isQuiet : Bool) (input : List Sed.Line) : Job Octets := do
  let fs := (← get).files
  let content (name : Octets) : Option Octets := match fs.readBytes (Octets.text name) with
    | .ok bytes => some (Octets.ofBytes bytes)
    | .error _ => none
  let s := Sed.edit program isQuiet content input
  s.files.forM fun (name, text) => do
    if name = "/dev/stderr".toList then Job.mutter text
    else
      let _ ← writeFile name text
  Job.raiseStatus s.status
  return s.output.reverse.flatten

def sedKnown : Known :=
  { letters := "nErszub", withValue := "efl", optional := "i"
    long := [("quiet", 'n'), ("silent", 'n'), ("expression", 'e'), ("file", 'f'),
      ("regexp-extended", 'E'), ("in-place", 'i'), ("separate", 's'), ("null-data", 'z'),
      ("unbuffered", 'u'), ("posix", 'u')] }

def sedScripts (a : Arguments) : Job (Option (List Octets)) := do
  let scripts ← a.options.mapM fun (letter, value) => do
    if letter = 'e' then return some [value]
    else if letter = 'f' then
      match ← readOperand value with
      | .ok text => return some [if text.getLast? = some '\n' then text.dropLast else text]
      | .error e =>
        Job.complain 4 (Octets.ofText "couldn't open file " ++ value ++
          Octets.ofText (": " ++ e.reason))
        return none
    else return some []
  return if scripts.all Option.isSome then some (scripts.filterMap id).flatten else none

def sedRefuse (f : Sed.Fault) : Job Unit := do
  let place := f.position
  if f.reason = Regex.bareClass then Job.complainOf 4 f.reason
  else Job.complainOf 1 (s!"-e expression #1, char {place}: " ++ f.reason)

def sed : Tool := withArguments sedKnown 1 fun a => do
  match ← sedScripts a with
  | none => pure ()
  | some given =>
    let (text, operands) : Option Octets × List Octets := match given, a.operands with
      | [], [] => (none, [])
      | [], script :: rest => (some script, rest)
      | given, operands => (some ((given.intersperse ['\n']).flatten), operands)
    match text with
    | none =>
      Job.mutter (Octets.ofText
        "Usage: sed [OPTION]... \x7bscript-only-if-no-other-script\x7d [input-file]...\n")
      Job.setStatus 1
    | some text =>
      match Sed.parse (a.has 'E' || a.has 'r') text with
      | .error f => sedRefuse f
      | .ok program =>
        if a.has 'i' || a.has 's' then
          operands.forM fun name => do
            let before := (← get).files.readBytes (Octets.text name)
            let input ← sedInput [name]
            let output ← sedRun program (a.has 'n') input
            match a.value? 'i', before with
            | some suffix, .ok content =>
              if !suffix.isEmpty then
                let _ ← writeFile (name ++ suffix) (Octets.ofBytes content)
              let _ ← writeFile name output
            | some _, .error _ => pure ()
            | none, _ => Job.put output
        else
          let input ← sedInput operands
          Job.put (← sedRun program (a.has 'n') input)

end SymbolDocs.Script.Tool
