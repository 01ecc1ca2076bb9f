import SymbolDocs.Script.Expand
import SymbolDocs.Script.Tool.Basic

namespace SymbolDocs.Script

open Text (Octets)

structure Opening where
  channel : Nat
  direction : Direction
  word : Octets

def expandRedirection (capture : Capture) (r : Redirection) : Act Opening := do
  match r.direction with
  | .document =>
    let text := ((← get).documents[r.document]?).getD []
    return ⟨r.channel, r.direction, Piece.text (← wordPieces capture text)⟩
  | .duplicate =>
    let word ← expandWhole capture r.word
    let isChannel := word.length == 1 && word.all fun c => c.isDigit || c == '-'
    if !isChannel then
      warnAt (← get).readTo (Octets.ofText "Syntax error: Bad fd number")
      setStatus 2
      throw .fails
    return ⟨r.channel, r.direction, word⟩
  | _ => return ⟨r.channel, r.direction, ← expandWhole capture r.word⟩

def openReason : OsError → String
  | .notFound | .notADirectory => "No such file"
  | e => e.reason

def createReason : OsError → String
  | .notFound | .notADirectory => "Directory nonexistent"
  | e => e.reason

def deviceStream? (s : Shell) (path : String) : Option (Nat × Shell) :=
  let channel (n : Nat) : Option (Nat × Shell) := (s.stream? n).map fun number => (number, s)
  match path with
  | "/dev/null" => some (s.addStream .nowhere)
  | "/dev/zero" => some (s.addStream (.source ((readDevice? path).getD [])))
  | "/dev/stdin" | "/dev/fd/0" => channel 0
  | "/dev/stdout" | "/dev/fd/1" => channel 1
  | "/dev/stderr" | "/dev/fd/2" => channel 2
  | _ => none

def fileStream (s : Shell) (o : Opening) : Except Octets (Nat × Shell) :=
  let path := Octets.text o.word
  let cannot (what : String) (reason : String) : Octets :=
    Octets.ofText ("cannot " ++ what ++ " ") ++ o.word ++ Octets.ofText (": " ++ reason)
  let fresh : Except Octets (Nat × Shell) :=
    match s.files.writeBytes path .empty, s.files.locate path with
    | .ok files, .ok there => .ok ({ s with files }.addStream (.file there 0 false))
    | .error e, _ | _, .error e => .error (cannot "create" (createReason e))
  match o.direction with
  | .input => match s.files.get path, s.files.locate path with
    | .ok _, .ok there => .ok (s.addStream (.file there 0 false))
    | .error e, _ | _, .error e => .error (cannot "open" (openReason e))
  | .append | .update =>
    if s.files.isFile path then match s.files.locate path with
      | .ok there => .ok (s.addStream (.file there 0 (o.direction == .append)))
      | .error e => .error (cannot "create" (createReason e))
    else do
      let (number, s) ← fresh
      .ok (number, match s.streams[number]? with
        | some (.file there _ _) => s.setStream number (.file there 0 (o.direction == .append))
        | _ => s)
  | .output =>
    if s.options.protectsFiles && s.files.isFile path then .error (cannot "create" "File exists")
    else fresh
  | _ => fresh

def Opening.apply (o : Opening) : Act Unit := do
  let s ← get
  match o.direction with
  | .document =>
    let (number, s) := s.addStream (.source o.word)
    set (s.setChannel o.channel number)
  | .duplicate =>
    if o.word = ['-'] then set (s.closeChannel o.channel)
    else
      match s.stream? (Arithmetic.digitsValue 10 o.word) with
      | some number => set (s.setChannel o.channel number)
      | none => abort (o.word ++ Octets.ofText ": Bad file descriptor")
  | _ =>
    match deviceStream? s (Octets.text o.word) with
    | some (number, s) => set (s.setChannel o.channel number)
    | none => match fileStream s o with
      | .ok (number, s) => set (s.setChannel o.channel number)
      | .error message => abort message

def Shell.saved (s : Shell) (os : List Opening) : List (Nat × Option Nat) :=
  os.map fun o => (o.channel, s.stream? o.channel)

def Shell.restored (s : Shell) (saved : List (Nat × Option Nat)) : Shell :=
  saved.foldl (fun s (channel, number) => match number with
    | some n => s.setChannel channel n
    | none => s.closeChannel channel) s

/-- Carries something out while channels are redirected. If one cannot be, nothing is carried out
and `failed` says what that means. -/
def redirecting (os : List Opening) (failed act : Act Unit) : Act Unit := do
  let saved := (← get).saved os
  let opened ← observe (os.forM Opening.apply)
  let result ← match opened with
    | .ok () => observe act
    | .error _ => pure (.ok ())
  modify (·.restored saved)
  match opened, result with
  | .error _, _ => failed
  | _, .error e => throw e
  | _, .ok () => pure ()

end SymbolDocs.Script
