import SymbolDocs.Script.Awk.Token

namespace SymbolDocs.Script.Awk

open Text (Octets)

abbrev Read := StateT (List (Token × Nat)) (Except Fault)

namespace Read

def peek : Read Token := do
  return match (← get).head? with
    | some (t, _) => t
    | none => .finish

def advance : Read Unit := modify List.tail

def fault : Read α := fun ts =>
  let (t, line) := ts.head?.getD (.finish, 1)
  match t with
  | .finish => .error ⟨line, Octets.ofText "syntax error at or near end of file"⟩
  | t => .error ⟨line, Octets.ofText "syntax error at or near " ++ t.title⟩

def isMark (m : String) : Read Bool := do
  return (← peek) == .mark m

def takes (m : String) : Read Bool := do
  if ← isMark m then
    advance
    return true
  else return false

def expect (m : String) : Read Unit := do
  if !(← takes m) then fault

def iterate (step : σ → Read (Option σ)) : (fuel : Nat) → σ → Read σ
  | 0, a => return a
  | fuel + 1, a => do
    match ← step a with
    | some b => iterate step fuel b
    | none => return a

def bound : Read Nat := do
  return (← get).length + 1

def skipNewlines : Read Unit :=
  modify fun ts => ts.dropWhile fun t => t.1 == .newline

def skipGaps : Read Unit :=
  modify fun ts => ts.dropWhile fun t => t.1 == .newline || t.1 == .mark ";"

end Read

open Read

/-- What an expression must not have outside of brackets, because it means something else there. -/
structure Mode where
  hasIn : Bool := true
  hasMore : Bool := true

def Expr.isTarget : Expr → Bool
  | .name _ | .element _ _ | .field _ => true
  | _ => false

section

variable (again : Mode → Read Expr)

def listOf (m : Mode) : Read (List Expr) := do
  let first ← again m
  iterate (fun es => do
    if ← takes "," then
      skipNewlines
      return some (es ++ [← again m])
    else return none) (← bound) [first]

def argumentsOf : Read (List Expr) := do
  expect "("
  skipNewlines
  if ← takes ")" then return []
  else
    let es ← listOf again {}
    skipNewlines
    expect ")"
    return es

def named (n : Octets) : Read Expr := do
  if ← takes "[" then
    let index ← listOf again {}
    expect "]"
    return .element n index
  else return .name n

def operand : Read Expr := do
  match ← peek with
  | .number x =>
    advance
    return .number x
  | .text t =>
    advance
    return .text t
  | .pattern s =>
    advance
    return .pattern s
  | .name n =>
    advance
    named again n
  | .callee n =>
    advance
    return .call n (← argumentsOf again)
  | .own w =>
    advance
    if w = "length" && !(← isMark "(") then return .call w.toList []
    else return .call w.toList (← argumentsOf again)
  | .mark "(" =>
    advance
    skipNewlines
    let es ← listOf again {}
    skipNewlines
    expect ")"
    match es with
    | [e] => return e
    | es => return .tuple es
  | _ => fault

def fields : Read Expr := do
  let depth ← iterate (fun n => do
    if ← takes "$" then return some (n + 1) else return none) (← bound) 0
  let step : Option Int ← do
    if depth = 0 then pure none
    else if ← takes "++" then pure (some 1)
    else if ← takes "--" then pure (some (-1))
    else pure none
  let isNegated ← if depth = 0 || step.isSome then pure false else takes "-"
  let e ← operand again
  let e := match step with
    | some n => .step true n e
    | none => if isNegated then .negated e else e
  return (List.range depth).foldl (fun e _ => Expr.field e) e

def lineRead (command : Option Expr) : Read Expr := do
  let startsTarget := match ← peek with
    | .name _ | .mark "$" => true
    | _ => false
  let target ← if startsTarget then do pure (some (← fields again)) else pure none
  if command.isNone && (← takes "<") then return .readLine target (some (← fields again)) none
  else return .readLine target none command

def stepped : Read Expr := do
  let before (n : Int) : Read Expr := do
    advance
    return .step true n (← fields again)
  match ← peek with
  | .mark "++" => before 1
  | .mark "--" => before (-1)
  | .keyword "getline" =>
    advance
    lineRead again none
  | _ =>
    let e ← fields again
    if !e.isTarget then return e
    else if ← takes "++" then return .step false 1 e
    else if ← takes "--" then return .step false (-1) e
    else return e

def signs : Read (List String) := do
  iterate (fun taken => do
    match ← peek with
    | .mark "!" =>
      advance
      return some (taken ++ ["!"])
    | .mark "-" =>
      advance
      return some (taken ++ ["-"])
    | .mark "+" =>
      advance
      return some (taken ++ ["+"])
    | _ => return none) (← bound) []

def withSigns (ss : List String) (e : Expr) : Expr :=
  ss.foldr (fun s e => match s with
    | "!" => .not e
    | "-" => .negated e
    | _ => .plus e) e

def powers : Read Expr := do
  let first ← stepped again
  let rest ← iterate (fun (es : List (List String × Expr)) => do
    if ← takes "^" then
      let ss ← signs
      return some (es ++ [(ss, ← stepped again)])
    else return none) (← bound) []
  let exponent := rest.foldr (fun (ss, e) (right : Option Expr) =>
    let whole := match right with
      | some r => Expr.arithmetic .pow e r
      | none => e
    some (withSigns ss whole)) none
  return match exponent with
    | some e => .arithmetic .pow first e
    | none => first

def signed : Read Expr := do
  let ss ← signs
  return withSigns ss (← powers again)

def operations (next : Read Expr) (op? : Token → Option Arithmetic) : Read Expr := do
  let first ← next
  iterate (fun e => do
    match op? (← peek) with
    | some op =>
      advance
      return some (.arithmetic op e (← next))
    | none => return none) (← bound) first

def products : Read Expr :=
  operations (signed again) fun
    | .mark "*" => some .mul
    | .mark "/" => some .div
    | .mark "%" => some .mod
    | _ => none

def sums : Read Expr :=
  operations (products again) fun
    | .mark "+" => some .add
    | .mark "-" => some .sub
    | _ => none

def Token.joins : Token → Bool
  | .number _ | .text _ | .name _ | .callee _ | .own _ => true
  | .mark m => m == "$" || m == "(" || m == "!" || m == "++" || m == "--"
  | _ => false

def joins : Read Expr := do
  let first ← sums again
  iterate (fun e => do
    let ts ← get
    match ts with
    | (.mark "|", _) :: (.keyword "getline", _) :: rest =>
      set rest
      return some (← lineRead again (some e))
    | _ =>
      if (← peek).joins then return some (.joined e (← sums again)) else return none)
    (← bound) first

def relationOf (m : Mode) : Token → Option Relation
  | .mark "<" => some .less
  | .mark "<=" => some .lessOrSame
  | .mark "==" => some .same
  | .mark "!=" => some .different
  | .mark ">" => if m.hasMore then some .more else none
  | .mark ">=" => some .moreOrSame
  | _ => none

def comparisons (m : Mode) : Read Expr := do
  let a ← joins again
  match relationOf m (← peek) with
  | some r =>
    advance
    return .relation r a (← joins again)
  | none => return a

def matches_ (m : Mode) : Read Expr := do
  let first ← comparisons again m
  iterate (fun e => do
    if ← takes "~" then return some (.matched false e (← comparisons again m))
    else if ← takes "!~" then return some (.matched true e (← comparisons again m))
    else return none) (← bound) first

def members (m : Mode) : Read Expr := do
  let first ← matches_ again m
  iterate (fun e => do
    match ← get with
    | (.keyword "in", _) :: (.name a, _) :: rest =>
      if m.hasIn then
        set rest
        return some (.isIn (match e with
          | .tuple es => es
          | e => [e]) a)
      else return none
    | _ => return none) (← bound) first

def conjunctions (m : Mode) : Read Expr := do
  let first ← members again m
  iterate (fun e => do
    if ← takes "&&" then
      skipNewlines
      return some (.and e (← members again m))
    else return none) (← bound) first

def disjunctions (m : Mode) : Read Expr := do
  let first ← conjunctions again m
  iterate (fun e => do
    if ← takes "||" then
      skipNewlines
      return some (.or e (← conjunctions again m))
    else return none) (← bound) first

def assignmentOf : Token → Option (Option Arithmetic)
  | .mark "=" => some none
  | .mark "+=" => some (some .add)
  | .mark "-=" => some (some .sub)
  | .mark "*=" => some (some .mul)
  | .mark "/=" => some (some .div)
  | .mark "%=" => some (some .mod)
  | .mark "^=" => some (some .pow)
  | _ => none

/-- The variable at the right end of an expression, with what is around it. An assignment belongs to
that variable alone. -/
def Expr.rightEnd (wrap : Expr → Expr) : Expr → Option (Expr × (Expr → Expr))
  | .name n => some (.name n, wrap)
  | .element a i => some (.element a i, wrap)
  | .field e => some (.field e, wrap)
  | .and a b => b.rightEnd fun e => wrap (.and a e)
  | .or a b => b.rightEnd fun e => wrap (.or a e)
  | .relation r a b => b.rightEnd fun e => wrap (.relation r a e)
  | .joined a b => b.rightEnd fun e => wrap (.joined a e)
  | .not e => e.rightEnd fun e => wrap (.not e)
  | _ => none

def whole (m : Mode) : Read Expr := do
  let e ← disjunctions again m
  if ← takes "?" then
    skipNewlines
    let yes ← again m
    skipNewlines
    expect ":"
    skipNewlines
    let no ← again m
    return .conditional e yes no
  else match assignmentOf (← peek), e.rightEnd id with
    | some op, some (target, wrap) =>
      advance
      skipNewlines
      return wrap (.assign op target (← again m))
    | _, _ => return e

end

def expressionIn : (fuel : Nat) → Mode → Read Expr
  | 0, _ => fault
  | fuel + 1, m => whole (expressionIn fuel) m

def expression (m : Mode) : Read Expr := do
  expressionIn (← bound) m

def atEnd : Read Bool := do
  return match ← peek with
    | .newline | .finish | .mark ";" | .mark "\x7d" => true
    | _ => false

def outlet : Read (Option (Outlet × Expr)) := do
  let leadTo (o : Outlet) : Read (Option (Outlet × Expr)) := do
    advance
    return some (o, ← joins (expressionIn (← bound)))
  match ← peek with
  | .mark ">" => leadTo .file
  | .mark ">>" => leadTo .append
  | .mark "|" => leadTo .command
  | _ => return none

def printed (isFormatted : Bool) : Read Statement := do
  let isBare ← do
    let ends ← atEnd
    pure (ends || (match ← peek with
      | .mark ">" | .mark ">>" | .mark "|" => true
      | _ => false))
  let es ← if isBare then pure [] else listOf expression { hasMore := false }
  let es := match es with
    | [.tuple es] => es
    | es => es
  return .print isFormatted es (← outlet)

def simpleStatement : Read Statement := do
  let optional : Read (Option Expr) := do
    if ← atEnd then return none else return some (← expression {})
  match ← peek with
  | .keyword "print" =>
    advance
    printed false
  | .keyword "printf" =>
    advance
    printed true
  | .keyword "next" =>
    advance
    return .nextRecord
  | .keyword "exit" =>
    advance
    return .leave (← optional)
  | .keyword "break" =>
    advance
    return .leaveLoop
  | .keyword "continue" =>
    advance
    return .repeatLoop
  | .keyword "return" =>
    advance
    return .give (← optional)
  | .keyword "delete" =>
    advance
    match ← peek with
    | .name a =>
      advance
      match ← named expression a with
      | .element a index => return .erase a index
      | _ => return .erase a []
    | _ => fault
  | _ => return .expression (← expression {})

section

variable (again : Read Statement)

def inner : Read Statement := do
  skipNewlines
  again

def statements : Read (List Statement) := do
  skipGaps
  let body ← iterate (fun (taken : List Statement) => do
    if ← isMark "\x7d" then return none
    else
      let s ← again
      skipGaps
      return some (taken ++ [s])) (← bound) []
  expect "\x7d"
  return body

def condition : Read Expr := do
  expect "("
  skipNewlines
  let e ← expression {}
  skipNewlines
  expect ")"
  return e

def choiceStatement : Read Statement := do
  let c ← condition
  let yes ← inner again
  let before ← get
  skipGaps
  match ← peek with
  | .keyword "else" =>
    advance
    return .choice c yes (← inner again)
  | _ =>
    set before
    return .choice c yes .nothing

def loopBody : Read Statement := do
  if ← takes ";" then return .nothing else inner again

def forStatement : Read Statement := do
  expect "("
  match ← get with
  | (.name n, _) :: (.keyword "in", _) :: (.name a, _) :: (.mark ")", _) :: rest =>
    set rest
    return .loopIn n a (← loopBody again)
  | _ =>
    let start ← if ← isMark ";" then pure .nothing else simpleStatement
    expect ";"
    skipNewlines
    let c ← if ← isMark ";" then pure none else do pure (some (← expression {}))
    expect ";"
    skipNewlines
    let step ← if ← isMark ")" then pure .nothing else simpleStatement
    expect ")"
    return .loopFor start c step (← loopBody again)

def wholeStatement : Read Statement := do
  match ← peek with
  | .mark "\x7b" =>
    advance
    return .block (← statements again)
  | .mark ";" =>
    advance
    return .nothing
  | .keyword "if" =>
    advance
    choiceStatement again
  | .keyword "while" =>
    advance
    let c ← condition
    return .loop c (← loopBody again)
  | .keyword "do" =>
    advance
    let body ← inner again
    skipGaps
    match ← peek with
    | .keyword "while" =>
      advance
      return .loopAfter body (← condition)
    | _ => fault
  | .keyword "for" =>
    advance
    forStatement again
  | _ =>
    let s ← simpleStatement
    if ← atEnd then
      if ← isMark ";" then advance
      return s
    else fault

end

def statementIn : (fuel : Nat) → Read Statement
  | 0 => fault
  | fuel + 1 => wholeStatement (statementIn fuel)

def action : Read Statement := do
  expect "\x7b"
  return .block (← statements (statementIn (← bound)))

def functionOf : Read Function := do
  match ← peek with
  | .name n | .callee n =>
    advance
    expect "("
    let parameters ← iterate (fun (ps : List Octets) => do
      match ← peek with
      | .name p =>
        advance
        let _ ← takes ","
        return some (ps ++ [p])
      | _ => return none) (← bound) []
    expect ")"
    skipNewlines
    return ⟨n, parameters, ← action⟩
  | _ => fault

def ruleOf : Read Rule := do
  let withAction (p : Pattern) : Read Rule := do
    if ← isMark "\x7b" then return ⟨p, some (← action)⟩ else return ⟨p, none⟩
  match ← peek with
  | .keyword "BEGIN" =>
    advance
    withAction .atStart
  | .keyword "END" =>
    advance
    withAction .atEnd
  | .mark "\x7b" => withAction .always
  | _ =>
    let first ← expression {}
    if ← takes "," then
      skipNewlines
      withAction (.fromTo first (← expression {}))
    else withAction (.holding first)

def programOf : Read Program := do
  skipGaps
  iterate (fun (p : Program) => do
    match ← peek with
    | .finish => return none
    | .keyword "function" =>
      advance
      let f ← functionOf
      skipGaps
      return some { p with functions := p.functions ++ [f] }
    | _ =>
      let r ← ruleOf
      skipGaps
      return some { p with rules := p.rules ++ [r] }) (← bound) {}

def parse (source : Octets) : Except Fault Program := do
  let ts ← tokens source
  let (p, _) ← programOf.run ts
  .ok p

end SymbolDocs.Script.Awk
