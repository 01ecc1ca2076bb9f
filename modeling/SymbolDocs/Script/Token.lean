import SymbolDocs.Script.Word

namespace SymbolDocs.Script

open Text (Octets)
open Reader (fail peek skip peekJoined)

def documentLines (a : Announced) : (fuel : Nat) → List Char → Octets × List Char
  | 0, cs => ([], cs)
  | fuel + 1, cs =>
    let line := cs.takeWhile (· != '\n')
    let line := if a.dropsTabs then line.dropWhile (· == '\t') else line
    match cs.dropWhile (· != '\n') with
    | [] => if line = a.stop then ([], []) else (line, [])
    | _ :: r =>
      if line = a.stop then ([], r)
      else
        let (text, rest) := documentLines a fuel r
        (line ++ '\n' :: text, rest)

def readDocument (inner : Inner) (a : Announced) : Reader Unit := do
  let s ← get
  let (text, rest) := documentLines a (s.rest.length + 1) s.rest
  let w ← if a.isLiteral then pure (Word.ofText text) else documentParts inner text
  let taken := s.rest.length - rest.length
  modify fun t => { t with
    rest
    line := s.line + (s.rest.take taken).count '\n'
    documents := t.documents.push w }

def readDocuments (inner : Inner) : Reader Unit := do
  let announced := (← get).announced
  modify fun s => { s with announced := [] }
  announced.forM (readDocument inner)

def redirect (channel : Option Nat) (first : Char) : Reader Token := do
  let answer (c : Nat) (d : Direction) : Reader Token := do
    skip
    return .redirect (channel.getD c) d false
  match first, ← peekJoined with
  | '>', some '>' => answer 1 .append
  | '>', some '|' => answer 1 .overwrite
  | '>', some '&' => answer 1 .duplicate
  | '>', _ => return .redirect (channel.getD 1) .output false
  | _, some '&' => answer 0 .duplicate
  | _, some '>' => answer 0 .update
  | _, some '<' =>
    skip
    if (← peekJoined) = some '-' then
      skip
      return .redirect (channel.getD 0) .document true
    else return .redirect (channel.getD 0) .document false
  | _, _ => return .redirect (channel.getD 0) .input false

def skipBlanks : Reader Unit := do
  Reader.iterate (fun () => do
    match ← peekJoined with
    | some c =>
      if isSpace c then
        skip
        return .inl ()
      else if c = '#' then
        modify fun s => { s with rest := s.rest.dropWhile (· != '\n') }
        return .inl ()
      else return .inr ()
    | none => return .inr ()) (← Reader.bound) ()

def doubled (c : Char) (single double : Token) : Reader Token := do
  if (← peekJoined) = some c then
    skip
    return double
  else return single

def nextToken (inner : Inner) : Reader Token := do
  skipBlanks
  let s ← get
  match s.rest with
  | [] => return .finish
  | '\n' :: _ =>
    skip
    readDocuments inner
    return .newline
  | '&' :: _ =>
    skip
    doubled '&' .ampersand .and
  | '|' :: _ =>
    skip
    doubled '|' .pipe .or
  | ';' :: _ =>
    skip
    doubled ';' .semicolon .clauseEnd
  | '(' :: _ =>
    skip
    return .opening
  | ')' :: _ =>
    skip
    return .closing
  | c :: r =>
    if c = '<' ∨ c = '>' then
      skip
      redirect none c
    else match c.isDigit, r with
      | true, '<' :: _ | true, '>' :: _ =>
        skip
        let arrow := r.head?.getD '>'
        skip
        redirect (some (c.toNat - '0'.toNat)) arrow
      | _, _ => return .word (← word inner)

def lookAhead (inner : Inner) : Reader Token := do
  match (← get).ahead with
  | some t => return t
  | none =>
    let t ← nextToken inner
    modify fun s => { s with ahead := some t }
    return t

def drop : Reader Unit :=
  modify fun s => { s with ahead := none }

def keywords : List String :=
  ["!", "case", "do", "done", "elif", "else", "esac", "fi", "for", "if", "in", "then", "until",
    "while", "\x7b", "\x7d"]

namespace Token

def keyword? : Token → Option String
  | word w => do
    let text := String.ofList (← w.bareText?)
    if keywords.contains text then some text else none
  | _ => none

def isNewline : Token → Bool
  | newline => true
  | _ => false

def title : Token → String
  | word _ => "word"
  | redirect _ _ _ => "redirection"
  | newline => "newline"
  | semicolon => "\";\""
  | clauseEnd => "\";;\""
  | ampersand => "\"&\""
  | and => "\"&&\""
  | or => "\"||\""
  | pipe => "\"|\""
  | opening => "\"(\""
  | closing => "\")\""
  | finish => "end of file"

def titleAsKeyword (t : Token) : String :=
  match t.keyword? with
  | some k => "\"" ++ k ++ "\""
  | none => t.title

def endsList (t : Token) : Bool :=
  match t with
  | finish | closing | clauseEnd => true
  | t => match t.keyword? with
    | some k => ["do", "done", "elif", "else", "esac", "fi", "then", "\x7d"].contains k
    | none => false

end Token

def unexpected (title : String) (expected : Option String) : Reader α :=
  match expected with
  | none => fail (title ++ " unexpected")
  | some e => fail (title ++ " unexpected (expecting " ++ e ++ ")")

end SymbolDocs.Script
