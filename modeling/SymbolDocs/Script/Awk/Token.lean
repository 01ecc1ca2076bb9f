import SymbolDocs.Script.Awk.Syntax
import SymbolDocs.Script.Format

namespace SymbolDocs.Script.Awk

open Text (Octets)

inductive Token where
  | number (x : Binary64)
  | text (t : Octets)
  | pattern (source : Octets)
  | name (n : Octets)
  | callee (n : Octets)
  | keyword (w : String)
  | own (w : String)
  | mark (m : String)
  | newline
  | finish
  deriving DecidableEq, Repr

def keywords : List String :=
  ["BEGIN", "END", "function", "func", "if", "else", "while", "for", "do", "break", "continue",
    "next", "exit", "return", "delete", "in", "getline", "print", "printf"]

def ownFunctions : List String :=
  ["length", "substr", "index", "split", "sub", "gsub", "match", "sprintf", "int", "sqrt",
    "tolower", "toupper", "system", "close", "fflush", "rand", "srand"]

def marks : List String :=
  ["**=", "&&", "||", "++", "--", "+=", "-=", "*=", "/=", "%=", "^=", "==", "<=", ">=", "!=", "!~",
    ">>", "**", "\x7b", "\x7d", "(", ")", "[", "]", ";", ",", "+", "-", "*", "/", "%", "^", "!",
    ">", "<", "|", "?", ":", "~", "$", "="]

structure Fault where
  line : Nat
  reason : Octets

def Token.endsOperand : Token → Bool
  | .number _ | .text _ | .name _ => true
  | .own w => w == "length"
  | .mark m => m == ")" || m == "]" || m == "$" || m == "++" || m == "--"
  | _ => false

def quotedText : (fuel : Nat) → List Char → Option (Octets × List Char)
  | 0, _ => none
  | _ + 1, [] => none
  | fuel + 1, c :: r =>
    let goOn (t : Octets) (rest : List Char) : Option (Octets × List Char) :=
      (quotedText fuel rest).map fun (s, rest) => (t ++ s, rest)
    if c = '"' then some ([], r)
    else if c = '\n' then none
    else if c ≠ '\\' then goOn [c] r
    else match r with
      | [] => none
      | '"' :: r => goOn ['"'] r
      | '\n' :: r => goOn [] r
      | d :: r' =>
        if d = 'e' || d = 'c' then goOn ['\\', d] r'
        else
          let (e, rest) := escape (d :: r')
          goOn [e] rest

def slashed : (fuel : Nat) → (inSet : Bool) → List Char → Option (Octets × List Char)
  | 0, _, _ => none
  | _ + 1, _, [] => none
  | fuel + 1, inSet, c :: r =>
    let goOn (t : Octets) (inSet : Bool) (rest : List Char) : Option (Octets × List Char) :=
      (slashed fuel inSet rest).map fun (s, rest) => (t ++ s, rest)
    if c = '/' && !inSet then some ([], r)
    else if c = '\n' then none
    else match c, r with
      | '\\', '/' :: r => goOn ['/'] inSet r
      | '\\', d :: r => goOn ['\\', d] inSet r
      | '[', ']' :: r => if inSet then goOn [c] inSet (']' :: r) else goOn ['[', ']'] true r
      | '[', r => goOn [c] true r
      | ']', r => goOn [c] false r
      | c, r => goOn [c] inSet r

def isWordChar (c : Char) : Bool := c.isAlphanum || c == '_'

def wordToken (w rest : List Char) : Token :=
  let text := String.ofList w
  if keywords.contains text then .keyword (if text = "func" then "function" else text)
  else if ownFunctions.contains text then .own text
  else if rest.head? = some '(' then .callee w
  else .name w

def tokensFrom : (fuel : Nat) → (line : Nat) → (last : Token) → List Char →
    Except Fault (List (Token × Nat))
  | 0, line, _, _ => .ok [(.finish, line)]
  | _ + 1, line, _, [] => .ok [(.finish, line)]
  | fuel + 1, line, last, c :: r =>
    let add (t : Token) (rest : List Char) : Except Fault (List (Token × Nat)) := do
      .ok ((t, line) :: (← tokensFrom fuel line t rest))
    if c = ' ' || c = '\t' || c = '\r' then tokensFrom fuel line last r
    else if c = '#' then tokensFrom fuel line last (r.dropWhile (· != '\n'))
    else if c = '\n' then do
      .ok ((.newline, line) :: (← tokensFrom fuel (line + 1) .newline r))
    else if c = '\\' && r.head? = some '\n' then tokensFrom fuel (line + 1) last r.tail
    else if c = '"' then
      match quotedText (r.length + 1) r with
      | some (t, rest) => add (.text t) rest
      | none => .error ⟨line, Octets.ofText "runaway string constant \"" ++ r.take 30 ++
          Octets.ofText " ..."⟩
    else if c = '/' && !last.endsOperand then
      match slashed (r.length + 1) false r with
      | some (t, rest) => add (.pattern t) rest
      | none => .error ⟨line, Octets.ofText "runaway regular expression /" ++ r.take 30 ++
          Octets.ofText " ..."⟩
    else if c.isDigit || (c = '.' && (r.head?.map Char.isDigit).getD false) then
      match Format.real? (c :: r) with
      | some (x, rest) => add (.number x) rest
      | none => add (.number .zero) r
    else if c.isAlpha || c = '_' then
      let w := (c :: r).takeWhile isWordChar
      let rest := (c :: r).drop w.length
      add (wordToken w rest) rest
    else
      match marks.find? fun m => m.toList.isPrefixOf (c :: r) with
      | some m =>
        let m' := if m = "**" then "^" else if m = "**=" then "^=" else m
        add (.mark m') ((c :: r).drop m.length)
      | none => .error ⟨line, Octets.ofText "unexpected character '" ++ [c, '\'']⟩

def tokens (source : Octets) : Except Fault (List (Token × Nat)) :=
  tokensFrom (source.length + 2) 1 .newline source

def Token.title : Token → Octets
  | .number x => Octets.ofText x.text
  | .text t => '"' :: t ++ ['"']
  | .pattern s => '/' :: s ++ ['/']
  | .name n | .callee n => n
  | .keyword w | .own w | .mark w => Octets.ofText w
  | .newline => Octets.ofText "\n"
  | .finish => Octets.ofText "end of file"

end SymbolDocs.Script.Awk
