import SymbolDocs.Script.Tool.Basic

namespace SymbolDocs.Script.Tool

open Text (Octets)
open Job (put putLine complain)

def numbered (skipsBlank : Bool) : Nat → List Octets → List Octets
  | _, [] => []
  | n, l :: ls =>
    if skipsBlank && l.isEmpty then l :: numbered skipsBlank n ls
    else
      let number := decimal n
      let fill := List.replicate (6 - number.length) ' '
      (fill ++ number ++ '\t' :: l) :: numbered skipsBlank (n + 1) ls

def squeezed : List Octets → List Octets
  | a :: b :: r => if a.isEmpty && b.isEmpty then squeezed (b :: r) else a :: squeezed (b :: r)
  | ls => ls

def cat : Tool := withArguments
    { letters := "AbeEnstTuv", long := [("number", 'n'), ("show-all", 'A'), ("show-ends", 'E')] } 1
  fun a => do
    let change (ls : List Octets) : List Octets :=
      let ls := if a.has 's' then squeezed ls else ls
      let ls := if a.has 'E' || a.has 'A' || a.has 'e' then ls.map (· ++ ['$']) else ls
      if a.has 'b' then numbered true 1 ls else if a.has 'n' then numbered false 1 ls else ls
    if a.options.isEmpty then forEachInput 1 a.operands fun _ text => put text
    else
      let text ← gather 1 a.operands
      put (unlinesLike text (change (lines text)))

def tac : Tool := withArguments {} 1 fun a =>
  forEachInput 1 a.operands fun _ text => do
    put (unlines (lines text).reverse)

def rev : Tool := withArguments {} 1 fun a =>
  forEachInput 1 a.operands fun _ text => do
    put (unlinesLike text ((lines text).map List.reverse))

structure Amount where
  count : Nat
  sign : Option Char
  ofBytes : Bool

def amount? (ofBytes : Bool) (word : Octets) : Option Amount :=
  let (sign, ds) := match word with
    | '+' :: r => (some '+', r)
    | '-' :: r => (some '-', r)
    | r => (none, r)
  (natural? ds).map fun count => ⟨count, sign, ofBytes⟩

def modernCount (args : List Octets) : List Octets :=
  match args with
  | ('-' :: d :: ds) :: rest =>
    if d.isDigit && ds.all Char.isDigit then ['-', 'n'] :: (d :: ds) :: rest else args
  | args => args

def amountOf (a : Arguments) : Except Octets Amount :=
  let found := match a.lastOf ['n', 'c'] with
    | some 'c' => (true, (a.value? 'c').getD [])
    | some _ => (false, (a.value? 'n').getD [])
    | none => (false, ['1', '0'])
  match amount? found.1 found.2 with
  | some m => .ok m
  | none =>
    let kind := if found.1 then "bytes" else "lines"
    .error (Octets.ofText ("invalid number of " ++ kind ++ ": ") ++ quoted found.2)

def takeLines : Nat → Octets → Octets
  | 0, _ => []
  | _ + 1, [] => []
  | n + 1, c :: r => if c = '\n' then c :: takeLines n r else c :: takeLines (n + 1) r

def firstPart (m : Amount) (text : Octets) : Octets :=
  let count (total : Nat) : Nat := if m.sign = some '-' then total - m.count else m.count
  if m.ofBytes then text.take (count text.length)
  else takeLines (count (lines text).length) text

def lastPart (m : Amount) (text : Octets) : Octets :=
  if m.ofBytes then
    text.drop (if m.sign = some '+' then m.count - 1 else text.length - m.count)
  else
    let total := (lines text).length
    let skipped := if m.sign = some '+' then m.count - 1 else total - m.count
    text.drop (takeLines skipped text).length

def partsKnown : Known :=
  { letters := "qvzfF", withValue := "nc"
    long := [("lines", 'n'), ("bytes", 'c'), ("quiet", 'q'), ("silent", 'q'), ("verbose", 'v')] }

def parts (part : Amount → Octets → Octets) (a : Arguments) (m : Amount) : Job Unit := do
  let hasTitles := (1 < a.operands.length || a.has 'v') && !a.has 'q'
  let operands := if a.operands.isEmpty then [['-']] else a.operands
  let rec go (isFirst : Bool) : List Octets → Job Unit
    | [] => pure ()
    | name :: rest => do
      match ← readOperand name with
      | .error e =>
        complain 1 (Octets.ofText "cannot open " ++ quoted name ++
          Octets.ofText (" for reading: " ++ e.reason))
        go isFirst rest
      | .ok text =>
        if hasTitles then
          let title := if name = ['-'] then "standard input".toList else name
          put ((if isFirst then [] else ['\n']) ++ Octets.ofText "==> " ++ title ++
            Octets.ofText " <==\n")
        put (part m text)
        go false rest
  go true operands

def head : Tool := fun args =>
  withArguments partsKnown 1 (fun a => do
    match amountOf a with
    | .error e => complain 1 e
    | .ok m =>
      let d ← get
      parts firstPart a m
      -- what was not asked for can still be read by others, if it can be put back
      if a.operands.isEmpty && (d.isSeekable || m.ofBytes) then
        set { ← get with input := d.input.drop (firstPart m d.input).length }) (modernCount args)

def tail : Tool := fun args =>
  let args := match args with
    | ('+' :: ds) :: rest => if ds.all Char.isDigit then ['-', 'n'] :: ('+' :: ds) :: rest else args
    | args => modernCount args
  withArguments partsKnown 1 (fun a => do
    match amountOf a with
    | .error e => complain 1 e
    | .ok m => parts lastPart a m) args

def wordsOf (s : Octets) : List Octets :=
  let isBlank (c : Char) : Bool := c == ' ' || (0x09 ≤ c.toNat && c.toNat ≤ 0x0D)
  (Text.splitOn ' ' (s.map fun c => if isBlank c then ' ' else c)).filter (!·.isEmpty)

def countsOf (a : Arguments) (text : Octets) : List Nat :=
  let all := !(a.has 'l' || a.has 'w' || a.has 'c' || a.has 'm' || a.has 'L')
  (if a.has 'l' || all then [text.count '\n'] else []) ++
    (if a.has 'w' || all then [(wordsOf text).length] else []) ++
    (if a.has 'm' then [text.length] else []) ++
    (if a.has 'c' || all then [text.length] else []) ++
    (if a.has 'L' then [((lines text).map List.length).foldl max 0] else [])

def columns (width : Nat) (ns : List Nat) : Octets :=
  let cells := ns.map fun n =>
    let ds := decimal n
    List.replicate (width - ds.length) ' ' ++ ds
  (cells.intersperse [' ']).flatten

def wc : Tool := withArguments
    { letters := "lwcmL"
      long := [("lines", 'l'), ("words", 'w'), ("bytes", 'c'), ("chars", 'm')] } 1
  fun a => do
    let d ← get
    let total (counts : List (List Nat)) : List Nat :=
      counts.foldl (fun sum c => if sum.isEmpty then c else List.zipWith (· + ·) sum c) []
    -- the width is that of the number of bytes in all files; what cannot be measured takes seven
    let sizes := a.operands.map fun name => match d.files.readBytes (Octets.text name) with
      | .ok content => some content.size
      | .error _ => none
    let isMeasured := !a.operands.isEmpty && a.operands.all (· != ['-'])
    let columnsAsked := (countsOf a []).length
    let bytes := sizes.foldl (fun n s => n + s.getD 0) 0
    let width :=
      if columnsAsked = 1 && a.operands.length ≤ 1 then 1
      else if isMeasured then (decimal bytes).length
      else 7
    let rec go : List Octets → Job (List (List Nat))
      | [] => return []
      | name :: rest => do
        match ← readOperand name with
        | .error e =>
          complain 1 (shown name ++ Octets.ofText (": " ++ e.reason))
          if e = .isADirectory then
            let zero := countsOf a []
            put (columns width zero ++ ' ' :: name ++ ['\n'])
          go rest
        | .ok text =>
          let counts := countsOf a text
          put (columns width counts ++ (if a.operands.isEmpty then [] else ' ' :: name) ++ ['\n'])
          return counts :: (← go rest)
    let counts ← go (if a.operands.isEmpty then [['-']] else a.operands)
    if 1 < a.operands.length then
      let sums := if counts.isEmpty then countsOf a [] else total counts
      put (columns width sums ++ Octets.ofText " total\n")

structure Span where
  first : Nat
  last : Option Nat

def span? (word : Octets) : Option Span :=
  match Text.cutAt '-' word with
  | none => (natural? word).bind fun n => if n = 0 then none else some ⟨n, some n⟩
  | some ([], []) => none
  | some (a, []) => (natural? a).map fun n => ⟨n, none⟩
  | some ([], b) => (natural? b).map fun n => ⟨1, some n⟩
  | some (a, b) => do
    let a ← natural? a
    let b ← natural? b
    if b < a then none else some ⟨a, some b⟩

def spans? (word : Octets) : Option (List Span) :=
  (Text.splitOn ',' word).mapM span?

def inSpans (spans : List Span) (n : Nat) : Bool :=
  spans.any fun s => s.first ≤ n && match s.last with
    | some last => n ≤ last
    | none => true

def chosen (keeps : Nat → Bool) : Nat → List α → List α
  | _, [] => []
  | n, x :: xs => if keeps n then x :: chosen keeps (n + 1) xs else chosen keeps (n + 1) xs

def joined (joint : Octets) (ts : List Octets) : Octets :=
  (ts.intersperse joint).flatten

def cut : Tool := withArguments
    { letters := "snC", withValue := "bcdfO"
      long := [("bytes", 'b'), ("characters", 'c'), ("delimiter", 'd'), ("fields", 'f'),
        ("only-delimited", 's'), ("complement", 'C'), ("output-delimiter", 'O')] } 1
  fun a => do
    let delimiter := (((a.value? 'd').getD ['\t']).head?).getD (Char.ofNat 0)
    let joint := (a.value? 'O').getD [delimiter]
    match a.lastOf ['b', 'c', 'f'] with
    | none => Job.refuse 1 (Octets.ofText "you must specify a list of bytes, characters, or fields")
    | some kind =>
      match spans? ((a.value? kind).getD []) with
      | none =>
        let what := if kind = 'f' then "fields are numbered from 1"
          else "byte/character positions are numbered from 1"
        Job.refuse 1 (Octets.ofText what)
      | some spans =>
        let keeps (n : Nat) : Bool := inSpans spans n != a.has 'C'
        forEachInput 1 a.operands fun _ text => do
          let kept := (lines text).filterMap fun l =>
            if kind ≠ 'f' then some (chosen keeps 1 l)
            else if !l.contains delimiter then if a.has 's' then none else some l
            else some (joined joint (chosen keeps 1 (Text.splitOn delimiter l)))
          put (unlines kept)

def beside : (fuel : Nat) → List (List Octets) → List (List Octets)
  | 0, _ => []
  | fuel + 1, columns =>
    if columns.all List.isEmpty then []
    else columns.map (fun c => c.head?.getD []) :: beside fuel (columns.map List.tail)

def joinedInTurn (delimiters : List Char) : Nat → List Octets → Octets
  | _, [] => []
  | _, [t] => t
  | n, t :: ts =>
    let d := match delimiters[n % max delimiters.length 1]? with
      | some c => [c]
      | none => []
    t ++ d ++ joinedInTurn delimiters (n + 1) ts

def paste : Tool := withArguments
    { letters := "sz", withValue := "d", long := [("delimiters", 'd'), ("serial", 's')] } 1
  fun a => do
    let delimiters := ((a.value? 'd').getD ['\t'])
    let delimiters := if delimiters = ['\\', 'n'] then ['\n']
      else if delimiters = ['\\', 't'] then ['\t']
      else if delimiters = ['\\', '0'] then [] else delimiters
    let operands := if a.operands.isEmpty then [['-']] else a.operands
    -- several hyphens take the lines of the input in turn
    let hyphens := (operands.filter (· == ['-'])).length
    let input := lines (← get).input
    let rec read (seen : Nat) : List Octets → Job (List (List Octets))
      | [] => return []
      | name :: rest => do
        if name = ['-'] && !a.has 's' then
          let mine := chosen (fun n => n % hyphens == seen) 0 input
          return mine :: (← read (seen + 1) rest)
        match ← readOperand name with
        | .ok text => return lines text :: (← read seen rest)
        | .error e =>
          complain 1 (shown name ++ Octets.ofText (": " ++ e.reason))
          read seen rest
    let columns ← read 0 operands
    modify fun d => if 0 < hyphens then { d with input := [] } else d
    if a.has 's' then put (unlines (columns.map (joinedInTurn delimiters 0)))
    else
      let height := (columns.map List.length).foldl max 0
      put (unlines ((beside (height + 1) columns).map (joinedInTurn delimiters 0)))

def folded (width : Nat) : (fuel : Nat) → Octets → List Octets
  | 0, l => [l]
  | fuel + 1, l =>
    if l.length ≤ width then [l] else l.take width :: folded width fuel (l.drop width)

def fold : Tool := withArguments { letters := "bs", withValue := "w" } 1 fun a => do
  let width := max ((natural? ((a.value? 'w').getD ['8', '0'])).getD 80) 1
  forEachInput 1 a.operands fun _ text => do
    put (unlinesLike text ((lines text).flatMap fun l => folded width (l.length + 1) l))

def nl : Tool := withArguments { letters := "p", withValue := "bdfhilnsvw" } 1 fun a => do
  let text ← gather 1 a.operands
  let countsAll := (a.value? 'b') == some ['a']
  let width := ((a.value? 'w').bind natural?).getD 6
  let joint := (a.value? 's').getD ['\t']
  let rec go : Nat → List Octets → List Octets
    | _, [] => []
    | n, l :: ls =>
      if l.isEmpty && !countsAll then
        List.replicate (width + joint.length) ' ' :: go n ls
      else
        let number := decimal n
        (List.replicate (width - number.length) ' ' ++ number ++ joint ++ l) :: go (n + 1) ls
  put (unlines (go (((a.value? 'v').bind natural?).getD 1) (lines text)))

end SymbolDocs.Script.Tool
