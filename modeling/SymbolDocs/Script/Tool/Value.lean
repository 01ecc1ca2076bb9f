import SymbolDocs.Script.Condition
import SymbolDocs.Script.Format
import SymbolDocs.Script.Regex.Parse
import SymbolDocs.Script.Tool.Basic

namespace SymbolDocs.Script.Tool

open Text (Octets)
open Job (put putLine complain complainOf)

def echoFlags : List Octets → List Char × List Octets
  | ('-' :: c :: cs) :: rest =>
    if (c :: cs).all fun c => "neE".toList.contains c then
      let (letters, words) := echoFlags rest
      (c :: cs ++ letters, words)
    else ([], ('-' :: c :: cs) :: rest)
  | words => ([], words)

def echo : Tool := fun args => do
  let (letters, words) := echoFlags args
  let line := (words.intersperse [' ']).flatten
  let undoes := (letters.filter fun c => c != 'n').getLast? == some 'e'
  let (text, isCut) := if undoes then unescape (line.length + 1) line else (line, false)
  put (text ++ (if isCut || letters.contains 'n' then [] else ['\n']))

def printf : Tool := fun args => do
  match if args.head? = some ['-', '-'] then args.tail else args with
  | [] => Job.refuse 1 (Octets.ofText "missing operand")
  | format :: arguments =>
    let made := Format.run format arguments
    made.warnings.forM (complain 1)
    match made.fault with
    | some reason => complain 1 reason
    | none => pure ()
    put made.text

def test : Tool := fun args => do
  match Script.test (← get).files args with
  | .ok holds => Job.setStatus (if holds then 0 else 1)
  | .error reason => complain 2 reason

def bracket : Tool := fun args =>
  if args.getLast? = some [']'] then test args.dropLast else complainOf 2 "missing ']'"

def succeed : Tool := fun _ => pure ()

def refuse : Tool := fun _ => Job.setStatus 1

def endlessSize : Nat := 0x10000

def yes : Tool := fun args => do
  let line := (if args.isEmpty then [['y']] else args).intersperse [' '] |>.flatten
  put ((List.replicate (endlessSize / (line.length + 1) + 1) (line ++ ['\n'])).flatten)
  Job.setStatus 141

def printenv : Tool := fun args => do
  let env := (← get).environment
  if args.isEmpty then
    put (Octets.ofText (String.join (env.map fun (name, value) => name ++ "=" ++ value ++ "\n")))
  else args.forM fun name => do
    match env.get? (Octets.text name) with
    | some value => putLine (Octets.ofText value)
    | none => Job.setStatus 1

structure Decimal where
  digits : Int
  places : Nat

namespace Decimal

def ofWord? (word : Octets) : Option Decimal :=
  let (isNegative, body) := match word with
    | '-' :: r => (true, r)
    | '+' :: r => (false, r)
    | r => (false, r)
  let (whole, part) := (Text.cutAt '.' body).getD (body, [])
  (natural? (whole ++ part)).map fun n => ⟨if isNegative then -n else n, part.length⟩

def scaledTo (d : Decimal) (places : Nat) : Int :=
  d.digits * (Nat.pow 10 (places - d.places) : Nat)

end Decimal

def fixedText (places width : Nat) (n : Int) : Octets :=
  let ds := decimal n.natAbs
  let ds := List.replicate (places + 1 - ds.length) '0' ++ ds
  let whole := ds.take (ds.length - places)
  let body := if places = 0 then whole else whole ++ '.' :: ds.drop (ds.length - places)
  let sign := if n < 0 then ['-'] else []
  sign ++ List.replicate (width - sign.length - body.length) '0' ++ body

def progression (first step last : Int) : List Int :=
  let count := if step = 0 then 0 else ((last - first) / step + 1).toNat
  (List.range count).map fun (i : Nat) => first + step * i

def seqOptions : List Octets → Except Octets (Octets × Bool × List Octets)
  | ['-', 's'] :: s :: rest => do
    let (_, isWide, ns) ← seqOptions rest
    .ok (s, isWide, ns)
  | ['-', 'w'] :: rest => do
    let (s, _, ns) ← seqOptions rest
    .ok (s, true, ns)
  | ('-' :: c :: cs) :: rest =>
    if c.isDigit || c == '.' then .ok (['\n'], false, ('-' :: c :: cs) :: rest)
    else if c = 's' && !cs.isEmpty then do
      let (_, isWide, ns) ← seqOptions rest
      .ok (cs, isWide, ns)
    else .error (Octets.ofText "invalid option -- '" ++ [c, '\''])
  | ns => .ok (['\n'], false, ns)

def seq : Tool := fun args => do
  match seqOptions args with
  | .error e => Job.refuse 1 e
  | .ok (separator, isWide, words) =>
    match words.find? fun w => (Decimal.ofWord? w).isNone with
    | some w => Job.refuse 1 (Octets.ofText "invalid floating point argument: " ++ quoted w)
    | none =>
      let one : Decimal := ⟨1, 0⟩
      match words.filterMap Decimal.ofWord? with
      | [] => Job.refuse 1 (Octets.ofText "missing operand")
      | [last] => show_ separator isWide one one last
      | [first, last] => show_ separator isWide first one last
      | [first, step, last] =>
        if step.digits = 0 then
          Job.refuse 1 (Octets.ofText "invalid Zero increment value: " ++
            quoted ((words[1]?).getD []))
        else show_ separator isWide first step last
      | _ => Job.refuse 1 (Octets.ofText "extra operand " ++ quoted ((words[3]?).getD []))
where
  show_ (separator : Octets) (isWide : Bool) (first step last : Decimal) : Job Unit := do
    let places := max first.places step.places
    let inner := max places last.places
    let unit : Int := (Nat.pow 10 (inner - places) : Nat)
    let ns := (progression (first.scaledTo inner) (step.scaledTo inner) (last.scaledTo inner)).map
      (· / unit)
    let widest := (ns.map fun n => (fixedText places 0 n).length).foldl max 0
    let texts := ns.map (fixedText places (if isWide then widest else 0))
    if !texts.isEmpty then put ((texts.intersperse separator).flatten ++ ['\n'])

namespace Expr

inductive Fault where
  | syntaxError (reason : Octets)
  | nonInteger
  | divisionByZero
  | other (reason : Octets)

def Fault.message : Fault → Octets
  | syntaxError reason => Octets.ofText "syntax error: " ++ reason
  | nonInteger => Octets.ofText "non-integer argument"
  | divisionByZero => Octets.ofText "division by zero"
  | other reason => reason

def isNull (value : Octets) : Bool :=
  value.isEmpty || match integer? value with
    | some n => n == 0 && value.head? != some '+'
    | none => false

def number (value : Octets) : Except Fault Int :=
  match value, integer? value with
  | '+' :: _, _ => .error .nonInteger
  | _, some n => .ok n
  | _, none => .error .nonInteger

def ofInt (n : Int) : Octets := (toString n).toList

def ranks : List (List String) :=
  [["|"], ["&"], ["<", "<=", "=", "==", "!=", ">=", ">"], ["+", "-"], ["*", "/", "%"], [":"]]

def matched (text pattern : Octets) : Except Fault Octets :=
  match Regex.parse { isExtended := false } pattern with
  | .error e => .error (.other (Octets.ofText e))
  | .ok r =>
    let start := Spot.ofText text
    let hasGroup := r.groupCount != 0
    .ok (match r.matchAt false start with
      | none => if hasGroup then [] else ['0']
      | some stop =>
        if hasGroup then (stop.group? 1).getD [] else decimal (start.textTo stop).length)

def compare (operator : String) (a b : Octets) : Octets :=
  let order : Int := match integer? a, integer? b with
    | some m, some n => m - n
    | _, _ => if a == b then 0 else if Condition.isBefore a b then -1 else 1
  let holds : Bool := match operator with
    | "<" => decide (order < 0)
    | "<=" => decide (order ≤ 0)
    | "=" | "==" => order == 0
    | "!=" => order != 0
    | ">=" => decide (0 ≤ order)
    | _ => decide (0 < order)
  if holds then ['1'] else ['0']

def apply (operator : String) (a b : Octets) : Except Fault Octets :=
  let arithmetic (f : Int → Int → Except Fault Int) : Except Fault Octets := do
    .ok (ofInt (← f (← number a) (← number b)))
  match operator with
  | "|" => .ok (if !isNull a then a else if !isNull b then b else ['0'])
  | "&" => .ok (if isNull a || isNull b then ['0'] else a)
  | "+" => arithmetic fun m n => .ok (m + n)
  | "-" => arithmetic fun m n => .ok (m - n)
  | "*" => arithmetic fun m n => .ok (m * n)
  | "/" => arithmetic fun m n => if n = 0 then .error .divisionByZero else .ok (Int.tdiv m n)
  | "%" => arithmetic fun m n => if n = 0 then .error .divisionByZero else .ok (Int.tmod m n)
  | ":" => matched a b
  | operator => .ok (compare operator a b)

abbrev Read := Except Fault (Octets × List Octets)

def missing (before : Octets) : Fault :=
  .syntaxError (Octets.ofText "missing argument after " ++ quoted before)

mutual

def ranked : (fuel : Nat) → (rank : Nat) → (before : Octets) → List Octets → Read
  | 0, _, _, ws => .ok ([], ws)
  | fuel + 1, rank, before, ws =>
    match ranks[rank]? with
    | none => primary fuel before ws
    | some operators => do
      let (value, rest) ← ranked fuel (rank + 1) before ws
      operations fuel rank operators value rest

def operations : (fuel : Nat) → (rank : Nat) → (operators : List String) → (value : Octets) →
    List Octets → Read
  | 0, _, _, value, ws => .ok (value, ws)
  | fuel + 1, rank, operators, value, ws =>
    match ws with
    | operator :: rest =>
      if operators.contains (String.ofList operator) then do
        let (other, rest) ← ranked fuel (rank + 1) operator rest
        let value ← apply (String.ofList operator) value other
        operations fuel rank operators value rest
      else .ok (value, ws)
    | [] => .ok (value, [])

def primary : (fuel : Nat) → (before : Octets) → List Octets → Read
  | 0, _, ws => .ok ([], ws)
  | fuel + 1, before, ws =>
    let operand (before : Octets) (ws : List Octets) : Read := primary fuel before ws
    match ws with
    | [] => .error (missing before)
    | word :: rest => match String.ofList word with
      | "(" => do
        let (value, rest) ← ranked fuel 0 word rest
        match rest with
        | [')'] :: rest => .ok (value, rest)
        | [] => .error (.syntaxError (Octets.ofText "expecting ')' after " ++
            quoted (ws.getLast?.getD [])))
        | other :: _ =>
          .error (.syntaxError (Octets.ofText "expecting ')' instead of " ++ quoted other))
      | ")" => .error (.syntaxError (Octets.ofText "unexpected ')'"))
      | "+" => match rest with
        | [] => .error (missing word)
        | value :: rest => .ok (value, rest)
      | "length" => do
        let (value, rest) ← operand word rest
        .ok (decimal value.length, rest)
      | "match" => do
        let (text, rest) ← operand word rest
        let (pattern, rest) ← operand text rest
        .ok (← matched text pattern, rest)
      | "index" => do
        let (text, rest) ← operand word rest
        let (set, rest) ← operand text rest
        let place := text.findIdx? fun c => set.contains c
        .ok (decimal ((place.map (· + 1)).getD 0), rest)
      | "substr" => do
        let (text, rest) ← operand word rest
        let (start, rest) ← operand text rest
        let (length, rest) ← operand start rest
        match integer? start, integer? length with
        | some m, some n =>
          .ok (if m ≤ 0 ∨ n ≤ 0 then [] else (text.drop (m - 1).toNat).take n.toNat, rest)
        | _, _ => .ok ([], rest)
      | _ => .ok (word, rest)

end

def value (ws : List Octets) : Except Fault Octets := do
  let (value, rest) ← ranked (16 * ws.length + 32) 0 [] ws
  match rest with
  | [] => .ok value
  | extra :: _ => .error (.syntaxError (Octets.ofText "unexpected argument " ++ quoted extra))

end Expr

def expr : Tool := fun args => do
  match if args.head? = some ['-', '-'] then args.tail else args with
  | [] => Job.refuse 2 (Octets.ofText "missing operand")
  | words => match Expr.value words with
    | .error e => complain 2 e.message
    | .ok value =>
      putLine value
      Job.setStatus (if Expr.isNull value then 1 else 0)

def id : Tool := withArguments { letters := "agGnrtu", long := [("group", 'g'), ("groups", 'G'),
    ("name", 'n'), ("real", 'r'), ("user", 'u')] } 1 fun a => do
  let narrows := a.has 'g' || a.has 'G' || a.has 'u'
  match a.operands.find? fun u => u != "root".toList && u != ['0'] with
  | some user => complain 1 (quoted user ++ Octets.ofText ": no such user")
  | none =>
    if (a.has 'n' || a.has 'r') && !narrows then
      complainOf 1 "printing only names or real IDs requires -u, -g, or -G"
    else putLine (if !narrows then "uid=0(root) gid=0(root) groups=0(root)".toList
      else if a.has 'n' then "root".toList else ['0'])

def whoami : Tool := withArguments {} 1 fun a =>
  match a.operands with
  | [] => putLine "root".toList
  | extra :: _ => Job.refuse 1 (Octets.ofText "extra operand " ++ quoted extra)

def isDuration (word : Octets) : Bool :=
  let body := if (word.getLast?.map fun c => "smhd".toList.contains c) = some true
    then word.dropLast else word
  match Decimal.ofWord? body with
  | some d => decide (0 ≤ d.digits)
  | none => false

def sleep : Tool := withArguments {} 1 fun a => do
  match a.operands.filter (!isDuration ·) with
  | [] =>
    if a.operands.isEmpty then Job.refuse 1 (Octets.ofText "missing operand") else pure ()
  | wrong =>
    wrong.forM fun word => complain 1 (Octets.ofText "invalid time interval " ++ quoted word)
    let tool := (← get).tool
    Job.mutter (Octets.ofText ("Try '" ++ tool ++ " --help' for more information.\n"))

def uname : Tool := fun args =>
  match args with
  | [] | [['-', 's']] => putLine "Linux".toList
  | [['-', 'm']] => putLine "x86_64".toList
  | _ => putLine "Linux".toList

end SymbolDocs.Script.Tool
