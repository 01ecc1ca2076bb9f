import SymbolDocs.Script.Awk.Grammar
import SymbolDocs.Script.Awk.Value
import SymbolDocs.Script.Wrapper

namespace SymbolDocs.Script.Awk

open Text (Octets)

/-- What a parameter of a function stands for. One that has no value yet can become an array. -/
inductive Binding where
  | scalar (c : Cell)
  | array (name : Octets)
  | undecided (name : Octets)

structure State where
  tool : Octets
  globals : List (Octets × Cell)
  arrays : List (Octets × List (Octets × Cell)) := []
  frames : List (List (Octets × Binding)) := []
  record : Octets := []
  fields : List Octets := []
  operands : List Octets
  input : Option Octets := none
  hasOpened : Bool := false
  readers : List (Octets × Octets) := []
  begun : List Octets := []
  waiting : List (Octets × Octets) := []
  ranges : List Nat := []
  locals : Nat := 0
  status : Nat := 0

inductive Jump where
  | nextRecord
  | leave
  | leaveLoop
  | repeatLoop
  | give (c : Cell)
  | fatal (message : Octets)

abbrev Eval := ExceptT Jump (StateT State Act)

inductive Place where
  | scalar (name : Octets)
  | item (array key : Octets)
  | field (number : Nat)

inductive Argument where
  | pattern (source : Octets)
  | kept (p : Place) (c : Cell)
  | value (c : Cell)

def act (a : Act α) : Eval α := fun st => do
  let x ← a
  return (.ok x, st)

def fatal (message : String) : Eval α := throw (.fatal (Octets.ofText message))

def global (name : String) : Eval Cell := do
  return (((← get).globals.find? fun g => g.1 == name.toList).map (·.2)).getD .unset

def globalText (name : String) : Eval Octets := do
  return (← global name).toText usualFormat

def numberFormat : Eval Octets := globalText "CONVFMT"

def textOf (c : Cell) : Eval Octets := do
  return c.toText (← numberFormat)

def setGlobal (name : Octets) (c : Cell) : Eval Unit :=
  modify fun st =>
    if st.globals.any fun g => g.1 == name then
      { st with globals := st.globals.map fun g => if g.1 == name then (name, c) else g }
    else { st with globals := (name, c) :: st.globals }

def binding? (st : State) (name : Octets) : Option Binding :=
  match st.frames with
  | frame :: _ => (frame.find? fun b => b.1 == name).map (·.2)
  | [] => none

def setBinding (name : Octets) (b : Binding) : Eval Unit :=
  modify fun st => match st.frames with
    | frame :: frames =>
      { st with frames := (frame.map fun c => if c.1 == name then (name, b) else c) :: frames }
    | [] => st

def arrayName (name : Octets) : Eval Octets := do
  match binding? (← get) name with
  | some (.array a) => return a
  | some (.undecided a) =>
    setBinding name (.array a)
    return a
  | some (.scalar _) => throw (.fatal (Octets.ofText "scalar used as array: " ++ name))
  | none => return name

def arrayOf (name : Octets) : Eval (List (Octets × Cell)) := do
  let a ← arrayName name
  return (((← get).arrays.find? fun x => x.1 == a).map (·.2)).getD []

def setArray (name : Octets) (items : List (Octets × Cell)) : Eval Unit := do
  let a ← arrayName name
  modify fun st =>
    if st.arrays.any fun x => x.1 == a then
      { st with arrays := st.arrays.map fun x => if x.1 == a then (a, items) else x }
    else { st with arrays := (a, items) :: st.arrays }

def item (name key : Octets) : Eval Cell := do
  let items ← arrayOf name
  match items.find? fun i => i.1 == key with
  | some (_, c) => return c
  | none =>
    setArray name (items ++ [(key, .unset)])
    return .unset

def setItem (name key : Octets) (c : Cell) : Eval Unit := do
  let items ← arrayOf name
  if items.any fun i => i.1 == key then
    setArray name (items.map fun i => if i.1 == key then (key, c) else i)
  else setArray name (items ++ [(key, c)])

def setRecord (text : Octets) : Eval Unit := do
  let separator ← globalText "FS"
  modify fun st => { st with record := text, fields := fieldsOf separator text }

def rebuild (fields : List Octets) : Eval Unit := do
  let joint ← globalText "OFS"
  modify fun st => { st with fields, record := (fields.intersperse joint).flatten }

def padded (fields : List Octets) (count : Nat) : List Octets :=
  fields ++ List.replicate (count - fields.length) []

def load (p : Place) : Eval Cell := do
  let st ← get
  match p with
  | .scalar n =>
    if n = "NF".toList then return .ofNat st.fields.length
    else match binding? st n with
      | some (.scalar c) => return c
      | some _ => return .unset
      | none => return ((st.globals.find? fun g => g.1 == n).map (·.2)).getD .unset
  | .item a key => item a key
  | .field 0 => return .input st.record
  | .field (n + 1) => return match st.fields[n]? with
    | some t => .input t
    | none => .unset

def store (p : Place) (c : Cell) : Eval Unit := do
  let st ← get
  match p with
  | .scalar n =>
    if n = "NF".toList then
      let count := (c.toNumber.whole?.getD 0).toNat
      rebuild ((padded st.fields count).take count)
    else match binding? st n with
      | some _ => setBinding n (.scalar c)
      | none => setGlobal n c
  | .item a key => setItem a key c
  | .field 0 => setRecord (← textOf c)
  | .field (n + 1) => rebuild ((padded st.fields (n + 1)).set n (← textOf c))

def cutRecord (separator text : Octets) : Option (Octets × Octets) :=
  match separator with
  | [] =>
    match text.dropWhile (· == '\n') with
    | [] => none
    | r => match Text.cutAtPair '\n' '\n' r with
      | some (record, rest) => some (record, rest.dropWhile (· == '\n'))
      | none => some (if r.getLast? = some '\n' then r.dropLast else r, [])
  | [c] =>
    if text.isEmpty then none
    else
      let record := text.takeWhile (· != c)
      let rest := text.drop (record.length + 1)
      -- a line break at the end of the text ends no further record
      let isOver := c != '\n' && rest.isEmpty && record.length == text.length
      some (if isOver && record.getLast? = some '\n' then record.dropLast else record, rest)
  | source =>
    if text.isEmpty then none
    else match regexOf source with
      | .error _ => some (text, [])
      | .ok r => match r.find false (.ofText text) with
        | some (a, b) => some ((Spot.ofText text).textTo a, b.after)
        | none => some (text, [])

def assignOperand (word : Octets) : Eval Bool := do
  match Text.cutAt '=' word with
  | some (name, value) =>
    if isName name then
      setGlobal name (.input (unescape (value.length + 1) value).1)
      return true
    else return false
  | none => return false

def wholeInput : Eval Octets := act do
  let (text, _) ← input 0
  leave 0 text []
  return text

def fileText (name : Octets) : Eval (Except OsError Octets) := do
  if name = ['-'] || name = "/dev/stdin".toList then return .ok (← wholeInput)
  else
    match readDevice? (Octets.text name) with
    | some text => return .ok text
    | none =>
      let files := (← act get).files
      return (files.readBytes (Octets.text name)).map Octets.ofBytes

def openNext : (fuel : Nat) → Eval Bool
  | 0 => return false
  | fuel + 1 => do
    let st ← get
    match st.operands with
    | [] =>
      if st.hasOpened then return false
      else
        let text ← wholeInput
        modify fun st => { st with input := some text, hasOpened := true }
        return true
    | word :: rest =>
      set { st with operands := rest }
      if ← assignOperand word then openNext fuel
      else match ← fileText word with
        | .error e =>
          let tool := (← get).tool
          act (write 2 (tool ++ Octets.ofText ": cannot open \"" ++ word ++
            Octets.ofText ("\" (" ++ e.reason ++ ")\n")))
          modify fun st => { st with hasOpened := true, status := 2 }
          openNext fuel
        | .ok text =>
          modify fun st => { st with input := some text, hasOpened := true }
          setGlobal "FILENAME".toList (.text word)
          setGlobal "FNR".toList (.ofNat 0)
          return true

def count (name : String) : Eval Unit := do
  setGlobal name.toList (.number ((← global name).toNumber.add (.ofInt 1)))

def nextInput : (fuel : Nat) → Eval (Option Octets)
  | 0 => return none
  | fuel + 1 => do
    let st ← get
    match st.input with
    | none => if ← openNext (st.operands.length + 2) then nextInput fuel else return none
    | some text =>
      match cutRecord (← globalText "RS") text with
      | some (record, rest) =>
        modify fun st => { st with input := some rest }
        count "NR"
        count "FNR"
        return some record
      | none =>
        set { st with input := none }
        nextInput fuel

def nextInputRecord : Eval (Option Octets) := do
  nextInput (2 * (← get).operands.length + 4)

def commandOutput (start : Start) (input : Option Octets) (isCaptured : Bool) (command : Octets) :
    Eval Octets := act do
  let outer ← get
  let s := match input with
    | some text =>
      let (number, s) := outer.addStream (.source text)
      s.setChannel 0 number
    | none => outer
  let (number, s) := s.addStream (.sink [] 0)
  set (if isCaptured then s.setChannel 1 number else s)
  let _ ← start ["sh".toList, ['-', 'c'], command]
  let text := (← get).written number
  modify fun s => { s with channels := outer.channels }
  return text

def nextFrom (name : Octets) (begin_ : Eval (Except OsError Octets)) :
    Eval (Option Octets × Int) := do
  let st ← get
  let known := (st.readers.find? fun r => r.1 == name).map (·.2)
  let text ← match known with
    | some t => pure (Except.ok t)
    | none => begin_
  match text with
  | .error _ => return (none, -1)
  | .ok text =>
    let put (rest : Octets) : Eval Unit :=
      modify fun st =>
        let others := st.readers.filter fun r => r.1 != name
        { st with readers := (name, rest) :: others }
    match cutRecord (← globalText "RS") text with
    | some (record, rest) =>
      put rest
      return (some record, 1)
    | none =>
      put []
      return (none, 0)

def emit (outlet : Option (Outlet × Octets)) (text : Octets) : Eval Unit := do
  match outlet with
  | none => act (write 1 text)
  | some (.command, command) =>
    modify fun st =>
      let before := ((st.waiting.find? fun w => w.1 == command).map (·.2)).getD []
      { st with waiting := st.waiting.filter (fun w => w.1 != command) ++
        [(command, before ++ text)] }
  | some (o, name) =>
    if name = "/dev/stdout".toList || name = ['-'] then act (write 1 text)
    else if name = "/dev/stderr".toList then act (write 2 text)
    else if name = "/dev/null".toList then pure ()
    else
      let st ← get
      let path := Octets.text name
      let s ← act get
      let before := match s.files.readBytes path with
        | .ok content => if o == .append || st.begun.contains name then content else .empty
        | .error _ => .empty
      match s.files.writeBytes path (before ++ Octets.bytes text) with
      | .ok files =>
        act (set { s with files })
        if !st.begun.contains name then set { st with begun := name :: st.begun }
      | .error _ => throw (.fatal (Octets.ofText "cannot open \"" ++ name ++
          Octets.ofText "\" for output"))

def release (start : Start) (command : Octets) : Eval Unit := do
  match (← get).waiting.find? fun w => w.1 == command with
  | some (_, text) =>
    modify fun st => { st with waiting := st.waiting.filter fun w => w.1 != command }
    let _ ← commandOutput start (some text) false command
  | none => pure ()

def Argument.cell : Argument → Cell
  | .pattern s => .text s
  | .kept _ c | .value c => c

def Argument.source (a : Argument) : Eval Octets :=
  match a with
  | .pattern s => return s
  | .kept _ c | .value c => textOf c

def compiled (source : Octets) : Eval Regex :=
  match regexOf source with
  | .ok r => return r
  | .error e => fatal ("regular expression compile failed (" ++ e ++ ")")

def substitute (isGlobal : Bool) (regex new : Argument) (target : Option Argument) : Eval Cell := do
  let r ← compiled (← regex.source)
  let new ← textOf new.cell
  let (place, text) ← match target with
    | some (.kept p c) => do pure (p, ← textOf c)
    | some a => do pure (Place.scalar [], ← textOf a.cell)
    | none => do pure (Place.field 0, (← get).record)
  let all := r.allIn false text
  let chosen := if isGlobal then all else all.take 1
  if chosen.isEmpty then return .ofNat 0
  else
    store place (.text (replacedIn new (.ofText text) chosen))
    return .ofNat chosen.length

def subtext (text : Octets) (start : Binary64) (length : Option Binary64) : Octets :=
  let rounded (x : Binary64) : Int := match x.fraction? with
    | some (n, d) => (2 * n + d) / (2 * d)
    | none => if x = .infinite false then text.length + 1 else 0
  let first := rounded start
  let stop : Int := match length with
    | some l => rounded (start.add l)
    | none => text.length + 1
  let low := max first 1
  if stop ≤ low then [] else (text.drop (low - 1).toNat).take (stop - low).toNat

def split (text : Octets) (array : Octets) (separator : Octets) : Eval Cell := do
  let pieces := fieldsOf separator text
  setArray array (pieces.zipIdx.map fun (t, i) => ((toString (i + 1)).toList, .input t))
  return .ofNat pieces.length

def indexOf (part : Octets) : Nat → List Char → Nat
  | n, [] => if part.isEmpty then 0 else n * 0
  | n, c :: r => if part.isPrefixOf (c :: r) then n else indexOf part (n + 1) r

def callOwn (start : Start) (name : String) (args : List Argument) : Eval Cell := do
  let text (n : Nat) : Eval Octets := textOf ((args[n]?).map Argument.cell |>.getD .unset)
  let number (n : Nat) : Binary64 := ((args[n]?).map Argument.cell |>.getD .unset).toNumber
  match name, args with
  | "length", [] => return .ofNat (← get).record.length
  | "length", .kept (.scalar n) c :: _ =>
    let st ← get
    let isArray := match binding? st n with
      | some (.array _) => true
      | some _ => false
      | none => st.arrays.any fun a => a.1 == n
    if isArray then return .ofNat (← arrayOf n).length else return .ofNat (← textOf c).length
  | "length", _ => return .ofNat (← text 0).length
  | "substr", [_, _] => return .text (subtext (← text 0) (number 1) none)
  | "substr", _ => return .text (subtext (← text 0) (number 1) (some (number 2)))
  | "index", _ => return .ofNat (indexOf (← text 1) 1 (← text 0))
  | "split", _ :: .kept (.scalar a) _ :: rest =>
    let separator ← match rest with
      | s :: _ => s.source
      | [] => globalText "FS"
    split (← text 0) a separator
  | "sub", regex :: new :: rest => substitute false regex new rest.head?
  | "gsub", regex :: new :: rest => substitute true regex new rest.head?
  | "match", _ :: regex :: _ =>
    let subject ← text 0
    let r ← compiled (← regex.source)
    match r.find false (.ofText subject) with
    | some (a, b) =>
      let place := subject.length - a.after.length + 1
      setGlobal "RSTART".toList (.ofNat place)
      setGlobal "RLENGTH".toList (.ofNat (a.textTo b).length)
      return .ofNat place
    | none =>
      setGlobal "RSTART".toList (.ofNat 0)
      setGlobal "RLENGTH".toList (.number (.ofInt (-1)))
      return .ofNat 0
  | "sprintf", _ :: rest =>
    let format ← text 0
    match formatted (format.length + 1) format (rest.map Argument.cell) with
    | some t => return .text t
    | none => throw (.fatal (Octets.ofText "run time error: not enough arguments passed to " ++
        Octets.ofText "sprintf(\"" ++ format ++ ['"', ')']))
  | "int", _ => return .number (number 0).truncate
  | "sqrt", _ => return .number (number 0).sqrt
  | "tolower", _ => return .text ((← text 0).map Char.toLower)
  | "toupper", _ => return .text ((← text 0).map Char.toUpper)
  | "system", _ =>
    let _ ← commandOutput start none false (← text 0)
    return .ofNat (← act get).status
  | "close", _ =>
    let name ← text 0
    release start name
    modify fun st => { st with
      readers := st.readers.filter fun r => r.1 != name
      begun := st.begun }
    return .ofNat 0
  | "fflush", _ | "srand", _ => return .ofNat 0
  | "rand", _ => return .number (.ofDecimal false 5 (-1))
  | name, _ => fatal ("wrong arguments for " ++ name)

abbrev Caller := Octets → List Argument → Eval Cell

def keyOf (cells : List Cell) : Eval Octets := do
  let joint ← globalText "SUBSEP"
  return ((← cells.mapM textOf).intersperse joint).flatten

def readLine (start : Start) (target : Option Place) (file command : Option Cell) : Eval Cell := do
  let (record, result) ← match file, command with
    | some f, _ => do
      let name ← textOf f
      nextFrom name (fileText name)
    | none, some c => do
      let text ← textOf c
      nextFrom text do return .ok (← commandOutput start none true text)
    | none, none => do
      let record ← nextInputRecord
      pure (record, if record.isSome then 1 else 0)
  match record with
  | some t =>
    match target with
    | some p => store p (.input t)
    | none => setRecord t
    if command.isSome then count "NR"
  | none => pure ()
  return .number (.ofInt result)

section

variable (start : Start) (caller : Caller)

mutual

def value : Expr → Eval Cell
  | .number x => return .number x
  | .text t => return .text t
  | .pattern source => do
    let r ← compiled source
    return .ofBool (r.occursIn false (← get).record)
  | .name n => load (.scalar n)
  | .element a index => do
    load (.item a (← keyOf (← values index)))
  | .field e => do
    load (.field ((← value e).toNumber.whole?.getD 0).toNat)
  | .assign op target e => do
    let c ← value e
    let p ← place target
    let c ← match op with
      | none => pure c
      | some op => do pure (.number (op.apply (← load p).toNumber c.toNumber))
    store p c
    return c
  | .conditional c yes no => do
    if (← value c).isTrue then value yes else value no
  | .or a b => do
    if (← value a).isTrue then return .ofBool true else return .ofBool (← value b).isTrue
  | .and a b => do
    if (← value a).isTrue then return .ofBool (← value b).isTrue else return .ofBool false
  | .not e => do return .ofBool (!(← value e).isTrue)
  | .isIn index a => do
    let key ← keyOf (← values index)
    return .ofBool ((← arrayOf a).any fun i => i.1 == key)
  | .matched isNegated e regex => do
    let subject ← textOf (← value e)
    let r ← compiled (← (← argument regex).source)
    return .ofBool (r.occursIn false subject != isNegated)
  | .relation r a b => do
    let x ← value a
    let y ← value b
    return .ofBool (r.holds (← numberFormat) x y)
  | .joined a b => do
    let x ← textOf (← value a)
    let y ← textOf (← value b)
    return .text (x ++ y)
  | .arithmetic op a b => do
    let x := (← value a).toNumber
    let y := (← value b).toNumber
    return .number (op.apply x y)
  | .negated e => do return .number (← value e).toNumber.neg
  | .plus e => do return .number (← value e).toNumber
  | .step givesNew amount target => do
    let p ← place target
    let old := (← load p).toNumber
    let new := old.add (.ofInt amount)
    store p (.number new)
    return .number (if givesNew then new else old)
  | .call f args => do
    let args ← arguments args
    if ownFunctions.contains (String.ofList f) then callOwn start (String.ofList f) args
    else caller f args
  | .tuple es => do
    return .text (← keyOf (← values es))
  | .readLine target file command => do
    let target ← optionalPlace target
    let file ← optionalValue file
    let command ← optionalValue command
    readLine start target file command

def values : List Expr → Eval (List Cell)
  | [] => return []
  | e :: es => do
    let c ← value e
    return c :: (← values es)

def optionalValue : Option Expr → Eval (Option Cell)
  | none => return none
  | some e => do return some (← value e)

def place : Expr → Eval Place
  | .name n => return .scalar n
  | .element a index => do return .item a (← keyOf (← values index))
  | .field e => do return .field ((← value e).toNumber.whole?.getD 0).toNat
  | _ => fatal "syntax error"

def optionalPlace : Option Expr → Eval (Option Place)
  | none => return none
  | some e => do return some (← place e)

def argument : Expr → Eval Argument
  | .pattern source => return .pattern source
  | .name n => do return .kept (.scalar n) (← load (.scalar n))
  | .element a index => do
    let p : Place := .item a (← keyOf (← values index))
    return .kept p (← load p)
  | .field e => do
    let p : Place := .field ((← value e).toNumber.whole?.getD 0).toNat
    return .kept p (← load p)
  | e => do return .value (← value e)

def arguments : List Expr → Eval (List Argument)
  | [] => return []
  | e :: es => do
    let a ← argument e
    return a :: (← arguments es)

end

def loopStep (body : Eval Unit) : Eval Bool := fun st => do
  match ← body st with
  | (.ok (), st) => return (.ok true, st)
  | (.error .leaveLoop, st) => return (.ok false, st)
  | (.error .repeatLoop, st) => return (.ok true, st)
  | (.error j, st) => return (.error j, st)

def repeatWhile (step : Eval Bool) : (fuel : Nat) → Eval Unit
  | 0 => pure ()
  | fuel + 1 => do
    if ← step then repeatWhile step fuel

def maxRepetitions : Nat := 0x1000000

def condition? (c : Option Expr) : Eval Bool :=
  match c with
  | none => return true
  | some e => do return (← value start caller e).isTrue

def printedText (isFormatted : Bool) (cells : List Cell) : Eval Octets := do
  if isFormatted then
    match cells with
    | [] => return []
    | f :: rest =>
      let format ← textOf f
      match formatted (format.length + 1) format rest with
      | some t => return t
      | none => throw (.fatal (Octets.ofText "run time error: not enough arguments passed to " ++
          Octets.ofText "printf(\"" ++ format ++ ['"', ')']))
  else
    let format ← globalText "OFMT"
    let texts ← if cells.isEmpty then do pure [(← get).record]
      else pure (cells.map fun c => c.toText format)
    return (texts.intersperse (← globalText "OFS")).flatten ++ (← globalText "ORS")

mutual

def run : Statement → Eval Unit
  | .nothing => pure ()
  | .expression e => do
    let _ ← value start caller e
  | .print isFormatted args outlet => do
    let cells ← values start caller args
    let text ← printedText isFormatted cells
    match outlet with
    | none => emit none text
    | some (o, e) => do
      let name ← textOf (← value start caller e)
      emit (some (o, name)) text
  | .block body => runAll body
  | .choice c yes no => do
    if (← value start caller c).isTrue then run yes else run no
  | .loop c body =>
    repeatWhile (do
      if (← value start caller c).isTrue then loopStep (run body) else return false) maxRepetitions
  | .loopAfter body c =>
    repeatWhile (do
      if ← loopStep (run body) then return (← value start caller c).isTrue else return false)
      maxRepetitions
  | .loopFor first c step body => do
    run first
    repeatWhile (do
      if ← condition? start caller c then
        if ← loopStep (run body) then
          run step
          return true
        else return false
      else return false) maxRepetitions
  | .loopIn name array body => do
    let keys := (← arrayOf array).map (·.1)
    let rec go : List Octets → Eval Unit
      | [] => pure ()
      | key :: keys => do
        store (.scalar name) (.input key)
        if ← loopStep (run body) then go keys
    go keys
  | .nextRecord => throw .nextRecord
  | .leave e => do
    match ← optionalValue start caller e with
    | some c => modify fun st => { st with status := ((c.toNumber.whole?.getD 0) % 256).toNat }
    | none => pure ()
    throw .leave
  | .leaveLoop => throw .leaveLoop
  | .repeatLoop => throw .repeatLoop
  | .give e => do
    let c ← optionalValue start caller e
    throw (.give (c.getD .unset))
  | .erase a index => do
    if index.isEmpty then setArray a []
    else
      let key ← keyOf (← values start caller index)
      setArray a ((← arrayOf a).filter fun i => i.1 != key)

def runAll : List Statement → Eval Unit
  | [] => pure ()
  | s :: ss => do
    run s
    runAll ss

end

end

def bindArgument (a : Argument) : Eval Binding := do
  match a with
  | .kept (.scalar n) c =>
    let st ← get
    match binding? st n with
    | some b => return b
    | none =>
      if st.arrays.any fun x => x.1 == n then return .array n
      else if c = .unset then return .undecided n
      else return .scalar c
  | a => return .scalar a.cell

def bindAll : List Octets → List Argument → Eval (List (Octets × Binding))
  | [], _ => return []
  | p :: ps, a :: as => do
    let b ← bindArgument a
    return (p, b) :: (← bindAll ps as)
  | p :: ps, [] => do
    let n := (← get).locals
    modify fun st => { st with locals := n + 1 }
    return (p, .undecided (Char.ofNat 0 :: (toString n).toList)) :: (← bindAll ps [])

def callFunction (start : Start) (functions : List Function) : (fuel : Nat) → Caller
  | 0, _, _ => fatal "function calls are nested too deeply"
  | fuel + 1, name, args => do
    match functions.find? fun f => f.name == name with
    | none => throw (.fatal (Octets.ofText "function " ++ name ++ Octets.ofText " never defined"))
    | some f =>
      let frame ← bindAll f.parameters args
      let fresh := (← get).locals
      modify fun st => { st with frames := frame :: st.frames }
      let body := run start (callFunction start functions fuel) f.body
      let result : Eval Cell := fun st => do
        let (r, st) ← body st
        let kept := st.arrays.filter fun a => !(frame.any fun b => match b.2 with
          | .undecided n => n == a.1 && n.head? == some (Char.ofNat 0)
          | _ => false)
        let st := { st with frames := st.frames.tail, arrays := kept, locals := fresh }
        return match r with
          | .ok () => (.ok .unset, st)
          | .error (.give c) => (.ok c, st)
          | .error j => (.error j, st)
      result

def applies (start : Start) (caller : Caller) (index : Nat) : Pattern → Eval Bool
  | .always => return true
  | .atStart | .atEnd => return false
  | .holding e => do return (← value start caller e).isTrue
  | .fromTo first last => do
    let isOpen := (← get).ranges.contains index
    let begins ← if isOpen then pure true else do pure (← value start caller first).isTrue
    if begins then
      let ends := (← value start caller last).isTrue
      modify fun st =>
        let others := st.ranges.filter fun i => i != index
        { st with ranges := if ends then others else index :: others }
      return true
    else return false

def applyRules (start : Start) (caller : Caller) : (index : Nat) → List Rule → Eval Unit
  | _, [] => pure ()
  | index, r :: rules => do
    if ← applies start caller index r.pattern then
      match r.body with
      | some body => run start caller body
      | none =>
        let text ← printedText false []
        emit none text
    applyRules start caller (index + 1) rules

def recordStep (start : Start) (caller : Caller) (rules : List Rule) : Eval Bool := do
  match ← nextInputRecord with
  | none => return false
  | some record =>
    setRecord record
    let step : Eval Bool := fun st => do
      match ← applyRules start caller 0 rules st with
      | (.ok (), st) | (.error .nextRecord, st) => return (.ok true, st)
      | (.error j, st) => return (.error j, st)
    step

def edgeRules (start : Start) (caller : Caller) (isStart : Bool) (rules : List Rule) : Eval Unit :=
  rules.forM fun r => do
    match r.pattern, r.body with
    | .atStart, some body => if isStart then run start caller body
    | .atEnd, some body => if !isStart then run start caller body
    | _, _ => pure ()

def isEdge (isStart : Bool) (r : Rule) : Bool :=
  match r.pattern with
  | .atStart => isStart
  | .atEnd => !isStart
  | _ => false

def leavable (e : Eval Unit) : Eval Unit := fun st => do
  match ← e st with
  | (.error .leave, st) => return (.ok (), st)
  | r => return r

def runProgram (start : Start) (p : Program) : Eval Unit := do
  let caller := callFunction start p.functions 1000
  let readsInput := p.rules.any fun r => !isEdge true r
  leavable do
    edgeRules start caller true p.rules
    if readsInput then
      repeatWhile (recordStep start caller p.rules) maxRepetitions
  leavable (edgeRules start caller false p.rules)
  let waiting := (← get).waiting
  waiting.forM fun w => release start w.1

def initialGlobals : List (Octets × Cell) :=
  [("FS", " "), ("OFS", " "), ("ORS", "\n"), ("RS", "\n"), ("SUBSEP", "\x1c"),
    ("CONVFMT", "%.6g"), ("OFMT", "%.6g")].map fun (n, v) => (n.toList, .text v.toList)

structure Call where
  separator : Option Octets := none
  assigned : List Octets := []
  files : List Octets := []
  rest : List Octets := []

def callOf (c : Call) : (fuel : Nat) → List Octets → Call
  | 0, args => { c with rest := args }
  | fuel + 1, args => match args with
    | ['-', '-'] :: rest => { c with rest }
    | ['-', 'F'] :: v :: rest => callOf { c with separator := some v } fuel rest
    | ['-', 'v'] :: v :: rest => callOf { c with assigned := c.assigned ++ [v] } fuel rest
    | ['-', 'f'] :: v :: rest => callOf { c with files := c.files ++ [v] } fuel rest
    | ('-' :: 'F' :: v) :: rest => callOf { c with separator := some v } fuel rest
    | ('-' :: 'v' :: v) :: rest => callOf { c with assigned := c.assigned ++ [v] } fuel rest
    | ('-' :: 'f' :: v) :: rest => callOf { c with files := c.files ++ [v] } fuel rest
    | args => { c with rest := args }

def sourceOf (c : Call) : Act (Except Octets (Octets × List Octets)) := do
  match c.files, c.rest with
  | [], [] => return .error (Octets.ofText "Usage: mawk [Options] [Program] [file ...]")
  | [], source :: operands => return .ok (source, operands)
  | files, operands =>
    let s ← get
    let texts := files.map fun f => (s.files.readBytes (Octets.text f)).map Octets.ofBytes
    match texts.find? fun t => t.toOption.isNone, files with
    | some _, f :: _ => return .error (Octets.ofText "awk: couldn't open file " ++ f)
    | _, _ => return .ok ((texts.filterMap Except.toOption).flatten, operands)

def tool (start : Start) (name : Octets) (args : List Octets) : Act Unit := do
  let complain (message : Octets) : Act Unit := do
    write 2 (name ++ [':', ' '] ++ message ++ ['\n'])
    setStatus 2
  let c := callOf {} (args.length + 1) args
  match ← sourceOf c with
  | .error message =>
    write 2 (message ++ ['\n'])
    setStatus 2
  | .ok (source, operands) =>
    match parse source with
    | .error f =>
      let line := f.line
      complain (Octets.ofText s!"line {line}: " ++ f.reason)
    | .ok program =>
      let exported := (← get).exported.map fun (n, v) => (n, Cell.input v)
      let st : State :=
        { tool := name
          globals := initialGlobals
          arrays := [("ENVIRON".toList, exported)]
          operands }
      let separator := c.separator.map fun v => (unescape (v.length + 1) v).1
      let body : Eval Unit := do
        match separator with
        | some v => setGlobal "FS".toList (.text v)
        | none => pure ()
        c.assigned.forM fun word => do
          let _ ← assignOperand word
        runProgram start program
      match ← body st with
      | (.error (.fatal message), _) => complain message
      | (_, st) => setStatus st.status

end SymbolDocs.Script.Awk
