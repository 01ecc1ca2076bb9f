import SymbolDocs.Script.Glob
import SymbolDocs.Script.Tool.Text

namespace SymbolDocs.Script.Tool

open Text (Octets)
open Job (put)

structure Ordering where
  isNumeric : Bool := false
  ignoresCase : Bool := false
  ignoresBlanks : Bool := false
  isReversed : Bool := false
  onlyWords : Bool := false

structure KeyEnd where
  field : Nat
  char : Nat

structure Key where
  start : KeyEnd
  stop : Option KeyEnd
  ordering : Ordering

def orderingOf (o : Ordering) : List Char → Option Ordering
  | [] => some o
  | 'n' :: r | 'g' :: r | 'h' :: r => orderingOf { o with isNumeric := true } r
  | 'f' :: r => orderingOf { o with ignoresCase := true } r
  | 'b' :: r => orderingOf { o with ignoresBlanks := true } r
  | 'r' :: r => orderingOf { o with isReversed := true } r
  | 'd' :: r => orderingOf { o with onlyWords := true } r
  | _ => none

def keyEnd? (word : Octets) : Option (KeyEnd × List Char) := do
  let ds := word.takeWhile Char.isDigit
  let field ← natural? ds
  match word.drop ds.length with
  | '.' :: r =>
    let cs := r.takeWhile Char.isDigit
    some (⟨field, (natural? cs).getD 0⟩, r.drop cs.length)
  | r => some (⟨field, 0⟩, r)

def key? (usual : Ordering) (word : Octets) : Option Key := do
  let (first, rest) := match Text.cutAt ',' word with
    | some (a, b) => (a, some b)
    | none => (word, none)
  let (start, letters) ← keyEnd? first
  match rest with
  | none =>
    let ordering ← if letters.isEmpty then some usual else orderingOf {} letters
    some ⟨start, none, ordering⟩
  | some b =>
    let (stop, more) ← keyEnd? b
    let all := letters ++ more
    let ordering ← if all.isEmpty then some usual else orderingOf {} all
    some ⟨start, some stop, ordering⟩

def isGap (c : Char) : Bool := c == ' ' || c == '\t'

def sortFields (separator : Option Char) : (fuel : Nat) → Octets → List Octets
  | 0, l => [l]
  | fuel + 1, l =>
    match separator with
    | some c => Text.splitOn c l
    | none =>
      let blanks := l.takeWhile isGap
      let word := (l.drop blanks.length).takeWhile (!isGap ·)
      let rest := l.drop (blanks.length + word.length)
      if rest.isEmpty then [l] else (blanks ++ word) :: sortFields separator fuel rest

def keyText (separator : Option Char) (k : Key) (l : Octets) : Octets :=
  let fields := sortFields separator (l.length + 1) l
  let width := if separator.isSome then 1 else 0
  let startOf (n : Nat) : Nat :=
    (fields.take (n - 1)).foldl (fun sum f => sum + f.length + width) 0
  let blanks (n : Nat) : Nat :=
    if k.ordering.ignoresBlanks then ((fields[n - 1]?.getD []).takeWhile isGap).length else 0
  let first := startOf k.start.field + blanks k.start.field + (k.start.char - 1)
  let last := match k.stop with
    | none => l.length
    | some e =>
      if e.char = 0 then startOf e.field + (fields[e.field - 1]?.getD []).length
      else startOf e.field + blanks e.field + e.char
  (l.take last).drop first

def leadingNumber (text : Octets) : Bool × Octets × Octets :=
  let t := text.dropWhile isGap
  let (isNegative, t) := match t with
    | '-' :: r => (true, r)
    | r => (false, r)
  let whole := t.takeWhile Char.isDigit
  let part := match t.drop whole.length with
    | '.' :: r => r.takeWhile Char.isDigit
    | _ => []
  let whole := whole.dropWhile (· == '0')
  let part := (part.reverse.dropWhile (· == '0')).reverse
  (isNegative && !(whole.isEmpty && part.isEmpty), whole, part)

def compareBytes (a b : Octets) : Int :=
  if a = b then 0 else if Glob.inOrder a b then -1 else 1

def compareNumbers (a b : Octets) : Int :=
  let (an, aw, ap) := leadingNumber a
  let (bn, bw, bp) := leadingNumber b
  let magnitude : Int :=
    if aw.length ≠ bw.length then (aw.length : Int) - bw.length
    else
      let c := compareBytes aw bw
      if c ≠ 0 then c else compareBytes ap bp
  if an && bn then -magnitude else if an then -1 else if bn then 1 else magnitude

def Ordering.compare (o : Ordering) (a b : Octets) : Int :=
  let prepare (t : Octets) : Octets :=
    let t := if o.ignoresBlanks then t.dropWhile isGap else t
    let t := if o.onlyWords then t.filter fun c => c.isAlphanum || isGap c else t
    if o.ignoresCase then t.map Char.toUpper else t
  let c := if o.isNumeric then compareNumbers a b else compareBytes (prepare a) (prepare b)
  if o.isReversed then -c else c

def compareKeys (separator : Option Char) : List Key → Octets → Octets → Int
  | [], _, _ => 0
  | k :: ks, a, b =>
    let c := k.ordering.compare (keyText separator k a) (keyText separator k b)
    if c ≠ 0 then c else compareKeys separator ks a b

def distinct (compare : Octets → Octets → Int) : List Octets → List Octets
  | a :: b :: r =>
    if compare a b = 0 then distinct compare (a :: r) else a :: distinct compare (b :: r)
  | ls => ls
termination_by ls => ls.length

def unreadable (w : Bool × Octets) : Bool × Octets :=
  let tool := Octets.ofText "sort: "
  (w.1, tool ++ Octets.ofText "cannot read: " ++ w.2.drop tool.length)

def sort : Tool := withArguments
    { letters := "bdfghnrsuczmCMiRV", withValue := "ktoST"
      long := [("reverse", 'r'), ("numeric-sort", 'n'), ("unique", 'u'), ("key", 'k'),
        ("field-separator", 't'), ("ignore-case", 'f'), ("stable", 's'), ("output", 'o'),
        ("check", 'c')] } 2
  fun a => do
    let usual : Ordering :=
      { isNumeric := a.has 'n' || a.has 'g' || a.has 'h', ignoresCase := a.has 'f'
        ignoresBlanks := a.has 'b', isReversed := a.has 'r', onlyWords := a.has 'd' }
    let separator := (a.value? 't').bind List.head?
    match (a.values 'k').mapM (key? usual) with
    | none => Job.refuse 2 (Octets.ofText "invalid number at field start")
    | some keys =>
      let before := (← get).status
      let text ← gather 2 a.operands
      if before < (← get).status then
        -- nothing is sorted if something cannot be read
        modify fun d => { d with written := d.written.map unreadable }
        return
      let compare (x y : Octets) : Int :=
        if keys.isEmpty then usual.compare x y else compareKeys separator keys x y
      let final (x y : Octets) : Int :=
        let c := compare x y
        if c ≠ 0 || a.has 's' || a.has 'u' then c
        else if a.has 'r' then -(compareBytes x y) else compareBytes x y
      let all := lines text
      if a.has 'c' || a.has 'C' then
        let rec check : Nat → List Octets → Job Unit
          | n, x :: y :: r =>
            let c := compare x y
            if 0 < c || (c == 0 && a.has 'u') then do
              if a.has 'C' then Job.raiseStatus 1
              else
                let name := a.operands.head?.getD ['-']
                Job.complain 1 (name ++ ':' :: decimal (n + 1) ++ Octets.ofText ": disorder: " ++ y)
            else check (n + 1) (y :: r)
          | _, _ => pure ()
        check 1 all
      else
        let sorted := all.mergeSort fun x y => final x y ≤ 0
        let sorted := if a.has 'u' then distinct compare sorted else sorted
        match a.value? 'o' with
        | none => put (unlines sorted)
        | some name => match ← writeFile name (unlines sorted) with
          | .ok () => pure ()
          | .error e => Job.complain 2 (Octets.ofText "open failed: " ++ shown name ++
            Octets.ofText (": " ++ e.reason))

def groups (same : Octets → Octets → Bool) : List Octets → List (Octets × Nat)
  | [] => []
  | l :: ls => match groups same ls with
    | (m, n) :: rest => if same l m then (l, n + 1) :: rest else (l, 1) :: (m, n) :: rest
    | [] => [(l, 1)]

def comparedPart (fields chars : Nat) (l : Octets) : Octets :=
  let rec skip : Nat → Octets → Octets
    | 0, t => t
    | n + 1, t => skip n ((t.dropWhile isGap).dropWhile (!isGap ·))
  (skip fields l).drop chars

def uniq : Tool := withArguments
    { letters := "cdiuDz", withValue := "fsw"
      long := [("count", 'c'), ("repeated", 'd'), ("unique", 'u'), ("ignore-case", 'i'),
        ("skip-fields", 'f'), ("skip-chars", 's')] } 1
  fun a => do
    let number (letter : Char) : Nat := ((a.value? letter).bind natural?).getD 0
    let part (l : Octets) : Octets :=
      let t := comparedPart (number 'f') (number 's') l
      let t := if a.has 'w' then t.take (number 'w') else t
      if a.has 'i' then t.map Char.toLower else t
    let text ← gather 1 (a.operands.take 1)
    let found := groups (fun x y => part x == part y) (lines text)
    let found := found.filter fun (_, n) =>
      (!a.has 'd' || 1 < n) && (!a.has 'u' || n == 1)
    let result := unlines (found.map fun (l, n) =>
      if a.has 'c' then
        let ds := decimal n
        List.replicate (7 - ds.length) ' ' ++ ds ++ ' ' :: l
      else l)
    match a.operands with
    | [_, target] =>
      match ← writeFile target result with
      | .ok () => pure ()
      | .error e => Job.complain 1 (shown target ++ Octets.ofText (": " ++ e.reason))
    | _ => put result

def merged : (fuel : Nat) → List Octets → List Octets → List (Nat × Octets)
  | 0, _, _ => []
  | _ + 1, [], bs => bs.map fun b => (2, b)
  | _ + 1, as, [] => as.map fun a => (1, a)
  | fuel + 1, a :: as, b :: bs =>
    if a = b then (3, a) :: merged fuel as bs
    else if Glob.inOrder a b then (1, a) :: merged fuel as (b :: bs)
    else (2, b) :: merged fuel (a :: as) bs

def comm : Tool := withArguments { letters := "123" } 1 fun a => do
  match a.operands with
  | [first, second] =>
    match ← readOperand first, ← readOperand second with
    | .ok x, .ok y =>
      let xs := lines x
      let ys := lines y
      let shows (n : Nat) : Bool := !a.has (Char.ofNat ('0'.toNat + n))
      put (unlines ((merged (xs.length + ys.length + 1) xs ys).filterMap fun (n, l) =>
        let indent := ((List.range (n - 1)).filter fun m => shows (m + 1)).length
        if shows n then some (List.replicate indent '\t' ++ l) else none))
    | .error e, _ => Job.complain 1 (shown first ++ Octets.ofText (": " ++ e.reason))
    | _, .error e => Job.complain 1 (shown second ++ Octets.ofText (": " ++ e.reason))
  | [] => Job.refuse 1 (Octets.ofText "missing operand")
  | operand :: _ => Job.refuse 1 (Octets.ofText "missing operand after " ++ quoted operand)

def firstDifference : Nat → Nat → Octets → Octets → Option (Nat × Nat × Bool)
  | _, _, [], [] => none
  | byte, line, [], _ | byte, line, _, [] => some (byte, line, true)
  | byte, line, a :: as, b :: bs =>
    if a = b then firstDifference (byte + 1) (if a = '\n' then line + 1 else line) as bs
    else some (byte, line, false)

def cmp : Tool := withArguments
    { letters := "lsb", long := [("silent", 's'), ("quiet", 's')] } 2
  fun a => do
    match a.operands with
    | first :: second :: _ =>
      match ← readOperand first, ← readOperand second with
      | .error e, _ => Job.complain 2 (first ++ Octets.ofText (": " ++ e.reason))
      | _, .error e => Job.complain 2 (second ++ Octets.ofText (": " ++ e.reason))
      | .ok x, .ok y =>
        match firstDifference 1 1 x y with
        | none => pure ()
        | some (byte, line, isEnd) =>
          Job.raiseStatus 1
          if a.has 's' then pure ()
          else if isEnd then
            let short := if x.length < y.length then first else second
            let before := byte - 1
            if before = 0 then
              Job.complain 1 (Octets.ofText "EOF on " ++ quoted short ++
                Octets.ofText " which is empty")
            else
              let complete := (if x.length < y.length then x else y).getLast? == some '\n'
              let where_ := if complete then s!", line {line - 1}" else s!", in line {line}"
              Job.complain 1 (Octets.ofText "EOF on " ++ quoted short ++
                Octets.ofText (s!" after byte {before}" ++ where_))
          else
            put (first ++ ' ' :: second ++ Octets.ofText s!" differ: char {byte}, line {line}\n")
    | [first] =>
      match ← readOperand first, ← readOperand ['-'] with
      | .ok x, .ok y => if x ≠ y then Job.raiseStatus 1
      | _, _ => Job.raiseStatus 2
    | [] => Job.refuse 2 (Octets.ofText "missing operand after 'cmp'")

end SymbolDocs.Script.Tool
