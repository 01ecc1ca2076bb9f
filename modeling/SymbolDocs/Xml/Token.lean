import SymbolDocs.Xml.Tag
/-!
Markup cut into tokens by a scanner that takes one character per step. The scanner checks no more
than where a token ends, how it begins, and that an end tag names the innermost open element.
-/

namespace SymbolDocs.Xml

/-- A token. A fault in a text is reported at the last byte the scanner had to read for it: the `<`
behind it, or its own last byte at the end of the input. -/
inductive Token where
  | text (raw : List Char) (position : Nat)
  | cdata (raw : List Char)
  | start (tag : List Char)
  | empty (tag : List Char)
  | finish
  | other
  deriving DecidableEq, Repr

/-- What the scanner is inside of. `opening` is the position just after the `<`, and `read` is what
has been read since then, backwards. -/
inductive ScanMode where
  | text (read : List Char)
  | opened
  | startTag (quote : Option Char) (read : List Char)
  | endTag (opening : Nat) (read : List Char)
  | declaration (opening : Nat) (read : List Char)
  | bang (opening : Nat)
  | comment (opening : Nat) (read : List Char)
  | cdata (opening : Nat) (read : List Char)
  | doctype (opening : Nat) (read : List Char)
  deriving Repr

structure Scanner where
  position : Nat
  names : List (List Char)
  mode : ScanMode
  deriving Repr

namespace Scanner

def initial : Scanner :=
  ⟨0, [], .text []⟩

def textToken (read : List Char) (position : Nat) : Option Token :=
  if read.isEmpty then none else some (.text read.reverse position)

def closeStart (s : Scanner) (position : Nat) : List Char → Token × Scanner
  | '/' :: read => (.empty read.reverse, ⟨position, s.names, .text []⟩)
  | read =>
    let tag := read.reverse
    (.start tag, ⟨position, tagName tag :: s.names, .text []⟩)

def endName (read : List Char) : List Char :=
  match read.dropWhile isSpace with
  | [] => read.reverse
  | kept => kept.reverse

def closeEnd (s : Scanner) (position : Nat) (read : List Char) :
    Except Fault (List (List Char)) :=
  match s.names with
  | [] => .error (.markup position (.mismatchedEnd "" (String.ofList read.reverse)))
  | name :: names =>
    let found := endName read
    if found = name then .ok names
    else .error (.markup position (.mismatchedEnd (String.ofList name) (String.ofList found)))

def closeDeclaration (position : Nat) (read : List Char) : Except Fault Unit :=
  if 3 ≤ read.length ∧ read.head? = some '?' then .ok ()
  else .error (.markup position (.unfinished .declaration))

def beginsWith (start : List Char) (s : List Char) : Bool :=
  (s.take start.length).map Char.toUpper == start

def closeComment (position : Nat) (read : List Char) : Except Fault Token :=
  if beginsWith ['!', '-', '-'] read.reverse then .ok .other
  else .error (.markup position (.unfinished .comment))

def cdataStart : List Char :=
  ['!', '[', 'C', 'D', 'A', 'T', 'A', '[']

def doctypeStart : List Char :=
  ['!', 'D', 'O', 'C', 'T', 'Y', 'P', 'E']

def closeCdata (position : Nat) (read : List Char) : Except Fault Token :=
  if beginsWith cdataStart read.reverse then
    .ok (.cdata ((read.drop 2).reverse.drop cdataStart.length))
  else .error (.markup position (.unfinished .cdata))

def closeDoctype (position : Nat) (read : List Char) : Except Fault Token :=
  if !beginsWith doctypeStart read.reverse then
    .error (.markup position (.unfinished .doctype))
  else if (read.reverse.drop doctypeStart.length).all isSpace then
    .error (.markup position .emptyDoctype)
  else .ok .other

def stepStart (s : Scanner) (position : Nat) (quote : Option Char) (read : List Char)
    (c : Char) : Option Token × Scanner :=
  match quote with
  | some q => (none, ⟨position, s.names, .startTag (if c = q then none else some q) (c :: read)⟩)
  | none =>
    if c = '>' then
      let (token, next) := closeStart s position read
      (some token, next)
    else if c = '"' ∨ c = '\'' then (none, ⟨position, s.names, .startTag (some c) (c :: read)⟩)
    else (none, ⟨position, s.names, .startTag none (c :: read)⟩)

def step (s : Scanner) (c : Char) : Except Fault (Option Token × Scanner) :=
  let position := s.position + c.utf8Size
  let stay (mode : ScanMode) : Except Fault (Option Token × Scanner) :=
    .ok (none, ⟨position, s.names, mode⟩)
  let done (token : Token) : Except Fault (Option Token × Scanner) :=
    .ok (some token, ⟨position, s.names, .text []⟩)
  match s.mode with
  | .text read =>
    if c = '<' then .ok (textToken read s.position, ⟨position, s.names, .opened⟩)
    else stay (.text (c :: read))
  | .opened =>
    if c = '!' then stay (.bang s.position)
    else if c = '/' then stay (.endTag s.position [])
    else if c = '?' then stay (.declaration s.position [c])
    else .ok (stepStart s position none [] c)
  | .startTag quote read => .ok (stepStart s position quote read c)
  | .endTag opening read =>
    if c = '>' then do
      let names ← closeEnd s (opening + 1) read
      .ok (some .finish, ⟨position, names, .text []⟩)
    else stay (.endTag opening (c :: read))
  | .declaration opening read =>
    if c = '>' then do
      closeDeclaration (opening + 1) read
      done .other
    else stay (.declaration opening (c :: read))
  | .bang opening =>
    if c = '[' then stay (.cdata opening [c, '!'])
    else if c = '-' then stay (.comment opening [c, '!'])
    else if c = 'D' ∨ c = 'd' then stay (.doctype opening [c, '!'])
    else .error (.markup opening (.badBang (leadingByte c)))
  | .comment opening read =>
    if c = '>' ∧ 5 ≤ read.length ∧ read.take 2 = ['-', '-'] then do
      done (← closeComment position read)
    else stay (.comment opening (c :: read))
  | .cdata opening read =>
    if c = '>' ∧ read.take 2 = [']', ']'] then do
      done (← closeCdata position read)
    else stay (.cdata opening (c :: read))
  | .doctype opening read =>
    if c = '>' ∧ read.count '<' = read.count '>' then do
      done (← closeDoctype position read)
    else stay (.doctype opening (c :: read))

/-- What the end of the input makes of the scanner. A tag that is cut off counts as closed. -/
def finish (s : Scanner) : List (Except Fault Token) :=
  let unfinished (opening : Nat) (piece : Piece) : List (Except Fault Token) :=
    [.error (.markup opening (.unfinished piece))]
  match s.mode with
  | .text read => (textToken read (s.position - 1)).toList.map .ok
  | .opened => []
  | .startTag _ read => [.ok (closeStart s s.position read).1]
  | .endTag opening read => [(closeEnd s opening read).map fun _ => .finish]
  | .declaration opening read => [(closeDeclaration opening read).map fun _ => .other]
  | .bang opening => unfinished opening .bang
  | .comment opening _ => unfinished opening .comment
  | .cdata opening _ => unfinished opening .cdata
  | .doctype opening _ => unfinished opening .doctype

def tokens (s : Scanner) : List Char → List (Except Fault Token)
  | [] => s.finish
  | c :: r =>
    match s.step c with
    | .error fault => [.error fault]
    | .ok (none, next) => tokens next r
    | .ok (some token, next) => .ok token :: tokens next r

end Scanner

def dropMark : List Char → List Char
  | [] => []
  | c :: r => if c = '\uFEFF' then r else c :: r

def tokenize (s : List Char) : List (Except Fault Token) :=
  Scanner.initial.tokens (dropMark s)

end SymbolDocs.Xml
