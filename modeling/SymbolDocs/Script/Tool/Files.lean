import SymbolDocs.Script.Condition
import SymbolDocs.Script.Glob
import SymbolDocs.Script.Tool.Basic

namespace SymbolDocs.Script.Tool

open Text (Octets)
open Job (put putLine complain)

def change (step : FileSystem → Except Octets FileSystem) : Job Bool := do
  let d ← get
  match step d.files with
  | .ok files =>
    set { d with files }
    return true
  | .error message =>
    complain 1 message
    return false

def because (what : String) (name : Octets) (e : OsError) : Octets :=
  Octets.ofText (what ++ " ") ++ quoted name ++ Octets.ofText (": " ++ e.reason)

def forOperands (a : Arguments) (work : Octets → Job Unit) : Job Unit := do
  if a.operands.isEmpty then Job.refuse 1 (Octets.ofText "missing operand")
  a.operands.forM work

def mkdir : Tool := withArguments
    { letters := "pv"
      withValue := "m"
      long := [("parents", 'p'), ("verbose", 'v'), ("mode", 'm')] } 1
  fun a => forOperands a fun name => do
    let path := Octets.text name
    let isNew := !(← get).files.exists? path
    let isDone ← change fun fs =>
      (if a.has 'p' then fs.makeDirectories path else fs.makeDirectory path).mapError
        (because "cannot create directory" name)
    if a.has 'v' && isDone && isNew then
      put (Octets.ofText "mkdir: created directory " ++ quoted name ++ ['\n'])

def isFilled (fs : FileSystem) (there : List String) : Bool :=
  fs.entries.any fun e => there.isPrefixOf e.1 && e.1 != there

def lastName (path : String) : String :=
  match (Path.pieces (FileSystem.withoutEndSlashes path)).getLast? with
  | some "" | none => "/"
  | some name => name

def parentPath (path : String) : String :=
  match Text.cutAtLast '/' (FileSystem.withoutEndSlashes path).toList with
  | none => "."
  | some ([], _) => "/"
  | some (dir, _) =>
    let outer := FileSystem.withoutEndSlashes (String.ofList dir)
    if outer = "" then "/" else outer

def rm : Tool := withArguments
    { letters := "rRfdvi", long := [("recursive", 'r'), ("force", 'f'), ("dir", 'd'),
      ("verbose", 'v')] } 1
  fun a => do
    let isForced := a.has 'f'
    let isRecursive := a.has 'r' || a.has 'R'
    if a.operands.isEmpty && !isForced then Job.refuse 1 (Octets.ofText "missing operand")
    a.operands.forM fun name => do
      let path := Octets.text name
      let fs := (← get).files
      let last := lastName path
      if isRecursive && (last == "." || last == "..") then
        complain 1 (Octets.ofText "refusing to remove '.' or '..' directory: skipping " ++
          quoted name)
      else
        let isDone ← change fun fs =>
          match fs.get path, fs.locate path with
          | .ok (.file _ _), .ok there => .ok (fs.erase there)
          | .ok .directory, .ok there =>
            if isRecursive then .ok (fs.erase there)
            else if a.has 'd' then
              if isFilled fs there then .error (because "cannot remove" name .notEmpty)
              else .ok (fs.erase there)
            else .error (because "cannot remove" name .isADirectory)
          | .error e, _ | _, .error e =>
            if isForced && (e == .notFound || e == .notADirectory) then .ok fs
            else .error (because "cannot remove" name e)
        if a.has 'v' && isDone && fs.exists? path then
          let what := if fs.isDirectory path then "removed directory " else "removed "
          put (Octets.ofText what ++ quoted name ++ ['\n'])

def rmdir : Tool := withArguments
    { letters := "pv", long := [("parents", 'p'), ("verbose", 'v')] } 1
  fun a => forOperands a fun name => do
    let path := Octets.text name
    let paths := if a.has 'p' then path :: FileSystem.parents path else [path]
    paths.forM fun path => do
      let _ ← change fun fs =>
        match fs.get path, fs.locate path with
        | .ok .directory, .ok there =>
          if isFilled fs there then
            .error (because "failed to remove" (Octets.ofText path) .notEmpty)
          else .ok (fs.erase there)
        | .ok _, _ => .error (because "failed to remove" (Octets.ofText path) .notADirectory)
        | .error e, _ => .error (because "failed to remove" (Octets.ofText path) e)

def touch : Tool := withArguments { letters := "acmh", withValue := "drt" } 1 fun a => do
  if a.operands.isEmpty then Job.refuse 1 (Octets.ofText "missing file operand")
  a.operands.forM fun name => do
    let path := Octets.text name
    let _ ← change fun fs =>
      if fs.exists? path || Condition.isDevice path || a.has 'c' then .ok fs
      else (fs.writeBytes path .empty).mapError (because "cannot touch" name)

def modeExecutes (mode : Octets) : Option Bool :=
  if !mode.isEmpty && mode.all Char.isDigit then
    let digits := mode.drop (mode.length - 3)
    let owner := ((if digits.length = 3 then digits.head? else some '0').getD '0').toNat - '0'.toNat
    some (owner % 2 == 1)
  else
    (Text.splitOn ',' mode).foldl (fun known clause =>
      let who := clause.takeWhile fun c => "ugoa".toList.contains c
      let rest := clause.drop who.length
      let concerns := who.isEmpty || who.contains 'u' || who.contains 'a'
      match rest with
      | '+' :: letters => if concerns && letters.contains 'x' then some true else known
      | '-' :: letters => if concerns && letters.contains 'x' then some false else known
      | '=' :: letters => if concerns then some (letters.contains 'x') else known
      | _ => known) none

def isMode (mode : Octets) : Bool :=
  (!mode.isEmpty && mode.all fun c => '0' ≤ c && c ≤ '7') ||
    (Text.splitOn ',' mode).all fun clause =>
      let rest := clause.dropWhile fun c => "ugoa".toList.contains c
      match rest with
      | op :: letters => "+-=".toList.contains op &&
        letters.all fun c => "rwxXstugo".toList.contains c
      | [] => false

def chmod : Tool := fun args => do
  let isRecursive := args.contains ['-', 'R']
  match args.filter fun w => w != ['-', 'R'] && w != ['-', 'v'] && w != ['-', 'f'] with
  | [] => Job.refuse 1 (Octets.ofText "missing operand")
  | [mode] => Job.refuse 1 (Octets.ofText "missing operand after " ++ quoted mode)
  | mode :: names =>
    if !isMode mode then Job.refuse 1 (Octets.ofText "invalid mode: " ++ quoted mode)
    else names.forM fun name => do
      let path := Octets.text name
      let _ ← change fun fs =>
        match fs.get path, fs.locate path with
        | .ok _, .ok there =>
          let concerned := fs.entries.filter fun e =>
            e.1 == there || (isRecursive && there.isPrefixOf e.1)
          .ok (concerned.foldl (fun fs e => match e.2, modeExecutes mode with
            | .file content _, some executable => fs.put e.1 (.file content executable)
            | _, _ => fs) fs)
        | .error e, _ | _, .error e => .error (because "cannot access" name e)

def landing (fs : FileSystem) (source target : String) : String :=
  if fs.isDirectory target then Path.join target (lastName source) else target

def copyTree (fs : FileSystem) (source target : List String) : FileSystem :=
  (fs.entries.filter fun e => source.isPrefixOf e.1).foldl
    (fun fs e => fs.put (target ++ e.1.drop source.length) e.2) fs

def contentOf (fs : FileSystem) (path : String) : Except OsError Entry :=
  if path = "/dev/null" then .ok (.file .empty false) else fs.get path

def copyOne (isRecursive : Bool) (fs : FileSystem) (source target : String) :
    Except Octets FileSystem := do
  let into := landing fs source target
  let name := Octets.ofText source
  let complaint (e : OsError) : Octets :=
    because "cannot create regular file" (Octets.ofText into) e
  match contentOf fs source with
  | .error e => .error (because "cannot stat" name e)
  | .ok (.file content executable) =>
    match fs.locate source, fs.locate into with
    | .ok a, .ok b =>
      if a = b ∧ fs.exists? into then
        .error (quoted name ++ Octets.ofText " and " ++ quoted (Octets.ofText into) ++
          Octets.ofText " are the same file")
      else do
        let isNew := !fs.exists? into
        if fs.isDirectory into then
          .error (Octets.ofText "cannot overwrite directory " ++ quoted (Octets.ofText into) ++
            Octets.ofText " with non-directory")
        let fs ← (fs.writeBytes into content).mapError complaint
        .ok (if isNew then fs.put b (.file content executable) else fs)
    | _, .error e => .error (complaint e)
    | .error _, .ok _ => (fs.writeBytes into content).mapError complaint
  | .ok .directory =>
    if !isRecursive then
      .error (Octets.ofText "-r not specified; omitting directory " ++ quoted name)
    else do
      let here ← (fs.locate source).mapError complaint
      let there ← (fs.locate into).mapError complaint
      if fs.isFile into then
        .error (Octets.ofText "cannot overwrite non-directory " ++ quoted (Octets.ofText into) ++
          Octets.ofText " with directory " ++ quoted name)
      else if here.isPrefixOf there then
        .error (Octets.ofText "cannot copy a directory, " ++ quoted name ++
          Octets.ofText ", into itself, " ++ quoted (Octets.ofText into))
      else if fs.isDirectory (Path.ofNames there.dropLast) || there.length ≤ 1 then
        .ok (copyTree fs here there)
      else .error (because "cannot create directory" (Octets.ofText into) .notFound)

def moveOne (fs : FileSystem) (source target : String) : Except Octets FileSystem := do
  let into := landing fs source target
  let name := Octets.ofText source
  match fs.get source, fs.locate source, fs.locate into with
  | .error e, _, _ | _, .error e, _ => .error (because "cannot stat" name e)
  | _, _, .error e =>
    .error (Octets.ofText "cannot move " ++ quoted name ++ Octets.ofText " to " ++
      quoted (Octets.ofText into) ++ Octets.ofText (": " ++ e.reason))
  | .ok entry, .ok here, .ok there =>
    if here = there then
      .error (quoted name ++ Octets.ofText " and " ++ quoted (Octets.ofText into) ++
        Octets.ofText " are the same file")
    else if (fs.entry? there.dropLast).isNone && !there.isEmpty then
      .error (Octets.ofText "cannot move " ++ quoted name ++ Octets.ofText " to " ++
        quoted (Octets.ofText into) ++ Octets.ofText (": " ++ OsError.notFound.reason))
    else match entry with
      | .file content executable => .ok ((fs.erase here).put there (.file content executable))
      | .directory =>
        if fs.isFile into then
          .error (Octets.ofText "cannot overwrite non-directory " ++
            quoted (Octets.ofText into) ++ Octets.ofText " with directory " ++ quoted name)
        else if here.isPrefixOf there then
          .error (Octets.ofText "cannot move " ++ quoted name ++
            Octets.ofText " to a subdirectory of itself, " ++ quoted (Octets.ofText into))
        else if isFilled fs there then
          .error (Octets.ofText "cannot overwrite " ++ quoted (Octets.ofText into) ++
            Octets.ofText ": Directory not empty")
        else
          let copied := copyTree (fs.erase there) here there
          .ok (copied.erase here)

def transfer (a : Arguments) (arrow : String)
    (step : FileSystem → String → String → Except Octets FileSystem) : Job Unit := do
  let finish (sources : List Octets) (target : Octets) : Job Unit :=
    sources.forM fun source => do
      let into := landing (← get).files (Octets.text source) (Octets.text target)
      let isDone ← change fun fs => step fs (Octets.text source) (Octets.text target)
      if a.has 'v' && isDone then
        put (Octets.ofText arrow ++ quoted source ++ Octets.ofText " -> " ++
          quoted (Octets.ofText into) ++ ['\n'])
  match a.value? 't', a.operands with
  | some dir, sources => finish sources dir
  | none, [] => Job.refuse 1 (Octets.ofText "missing file operand")
  | none, [source] =>
    Job.refuse 1 (Octets.ofText "missing destination file operand after " ++ quoted source)
  | none, operands =>
    let target := operands.getLast?.getD []
    let fs := (← get).files
    if 2 < operands.length && !fs.isDirectory (Octets.text target) then
      complain 1 (Octets.ofText "target " ++ quoted target ++
        Octets.ofText (if fs.exists? (Octets.text target) then ": Not a directory"
          else ": No such file or directory"))
    else finish operands.dropLast target

def cp : Tool := withArguments
    { letters := "rRafpvnTudLPHsl", withValue := "t"
      long := [("recursive", 'r'), ("archive", 'a'), ("force", 'f'), ("verbose", 'v'),
        ("target-directory", 't')] } 1
  fun a =>
    let isRecursive := a.has 'r' || a.has 'R' || a.has 'a'
    transfer a "" fun fs source target =>
      if a.has 'n' && fs.isFile (landing fs source target) then .ok fs
      else copyOne isRecursive fs source target

def mv : Tool := withArguments
    { letters := "fvnTui", withValue := "t"
      long := [("force", 'f'), ("verbose", 'v'), ("no-clobber", 'n'), ("target-directory", 't')] } 1
  fun a => transfer a "renamed " fun fs source target =>
    if a.has 'n' && fs.isFile (landing fs source target) then .ok fs
    else moveOne fs source target

def ln : Tool := withArguments
    { letters := "sfvnrT", withValue := "t", long := [("symbolic", 's'), ("force", 'f')] } 1
  fun a => do
    let operands := match a.operands with
      | [source] => [source, Octets.ofText (lastName (Octets.text source))]
      | operands => operands
    transfer { a with operands } "" fun fs source target => do
      let into := landing fs source target
      if fs.exists? into && !a.has 'f' then
        let kind := if a.has 's' then "symbolic" else "hard"
        .error (because ("failed to create " ++ kind ++ " link") (Octets.ofText into)
          .alreadyExists)
      else
        let from_ := if a.has 's' && !Path.isAbsolute source then
            Path.join (parentPath into) source
          else source
        match fs.get from_ with
        | .ok (.file content executable) => do
          let there ← (fs.locate into).mapError
            (because "failed to create link" (Octets.ofText into))
          .ok (fs.put there (.file content executable))
        | .ok .directory => .ok fs
        | .error e =>
          if a.has 's' then .ok fs
          else .error (Octets.ofText "failed to access " ++ quoted (Octets.ofText source) ++
            Octets.ofText (": " ++ e.reason))

def listed (a : Arguments) (fs : FileSystem) (dir : String) : List Octets :=
  let names := (Glob.namesIn fs dir).filter fun name =>
    a.has 'a' || (name != ['.'] && name != ['.', '.'] && (a.has 'A' || name.head? != some '.'))
  let names := names.mergeSort Glob.inOrder
  if a.has 'r' then names.reverse else names

def withMark (a : Arguments) (fs : FileSystem) (dir : String) (name : Octets) : Octets :=
  let path := Path.join dir (Octets.text name)
  if (a.has 'p' || a.has 'F') && fs.isDirectory path then name ++ ['/']
  else if a.has 'F' then match fs.get path with
    | .ok (.file _ true) => name ++ ['*']
    | _ => name
  else name

def ls : Tool := withArguments
    { letters := "1aAdrRFptSUlhinGgoqsCxmkTZ", withValue := "wI"
      long := [("all", 'a'), ("almost-all", 'A'), ("directory", 'd'), ("reverse", 'r'),
        ("recursive", 'R'), ("color", 'Z')] } 2
  fun a => do
    let fs := (← get).files
    let operands := if a.operands.isEmpty then [['.']] else a.operands
    let operands := operands.mergeSort Glob.inOrder
    let missing := operands.filterMap fun name => match fs.get (Octets.text name) with
      | .error e => if Condition.isDevice (Octets.text name) then none else some (name, e)
      | .ok _ => none
    missing.forM fun (name, e) => complain 2 (because "cannot access" name e)
    let there := operands.filter fun name => !missing.any fun m => m.1 == name
    let isListed (name : Octets) : Bool := fs.isDirectory (Octets.text name) && !a.has 'd'
    let plain := there.filter fun name => !isListed name
    let dirs := there.filter isListed
    put (unlines (plain.map (withMark a fs "")))
    let rec show_ (isFirst : Bool) : (fuel : Nat) → List Octets → Job Unit
      | 0, _ => pure ()
      | _, [] => pure ()
      | fuel + 1, dir :: rest => do
        let path := Octets.text dir
        if 1 < operands.length || a.has 'R' then
          put ((if isFirst then [] else ['\n']) ++ dir ++ [':', '\n'])
        let names := listed a fs path
        put (unlines (names.map (withMark a fs path)))
        let inner := if !a.has 'R' then [] else
          (names.filter fun name => name != ['.'] && name != ['.', '.']).map fun name =>
            Octets.ofText (Path.join path (Octets.text name))
        show_ false fuel (inner.filter isListed ++ rest)
    show_ plain.isEmpty (fs.entries.length + operands.length + 1) dirs

def basename : Tool := withArguments
    { letters := "az", withValue := "s", isStrict := true
      long := [("multiple", 'a'), ("suffix", 's')] } 1
  fun a => do
    let strip (suffix name : Octets) : Octets :=
      if suffix.isSuffixOf name && suffix != name then name.take (name.length - suffix.length)
      else name
    let bare (path : Octets) : Octets := Octets.ofText (lastName (Octets.text path))
    match a.operands with
    | [] => Job.refuse 1 (Octets.ofText "missing operand")
    | path :: rest =>
      if a.has 'a' || a.has 's' then
        put (unlines ((path :: rest).map fun p => strip ((a.value? 's').getD []) (bare p)))
      else match rest with
        | _ :: extra :: _ => Job.refuse 1 (Octets.ofText "extra operand " ++ quoted extra)
        | _ => putLine (strip (rest.head?.getD []) (bare path))

def dirname : Tool := withArguments { letters := "z", isStrict := true } 1 fun a =>
  forOperands a fun path => putLine (Octets.ofText (parentPath (Octets.text path)))

def realpath : Tool := withArguments
    { letters := "emszqLPf", long := [("no-symlinks", 's')] } 1
  fun a => forOperands a fun name => do
    let fs := (← get).files
    match fs.locate (Octets.text name) with
    | .ok there =>
      let isThere := there.isEmpty || (fs.entry? there).isSome
      let hasParent := (fs.entry? there.dropLast).isSome
      if a.has 'm' || isThere || (hasParent && !a.has 'e') then
        putLine (Octets.ofText (Path.ofNames there))
      else complain 1 (shown name ++ Octets.ofText (": " ++ OsError.notFound.reason))
    | .error e => complain 1 (shown name ++ Octets.ofText (": " ++ e.reason))

def readlink : Tool := withArguments { letters := "femnqsvz" } 1 fun a =>
  forOperands a fun name => do
    let fs := (← get).files
    match a.has 'f' || a.has 'e' || a.has 'm', fs.locate (Octets.text name) with
    | true, .ok there => putLine (Octets.ofText (Path.ofNames there))
    | _, _ => Job.raiseStatus 1

def pwd : Tool := fun _ => do
  putLine (Octets.ofText (Path.ofNames (← get).files.cwd))

def mktemp : Tool := withArguments
    { letters := "dqut", withValue := "p", long := [("directory", 'd'), ("tmpdir", 'p')] } 1
  fun a => do
    let fs := (← get).files
    let template := match a.operands with
      | t :: _ => Octets.text t
      | [] => Path.join (((a.value? 'p').map Octets.text).getD "/tmp") "tmp.XXXXXXXXXX"
    let start := (template.toList.reverse.dropWhile (· == 'X')).reverse
    let path := (List.range (fs.entries.length + 1)).findSome? fun n =>
      let digits := (toString n).toList
      let count := template.length - start.length
      let candidate := String.ofList
        (start ++ List.replicate (count - digits.length) '0' ++ digits)
      if fs.exists? candidate then none else some candidate
    match path with
    | none => Job.raiseStatus 1
    | some path =>
      let isDone ← change fun fs =>
        let fs := if fs.exists? "/tmp" then fs else fs.put ["tmp"] .directory
        (if a.has 'd' then fs.makeDirectory path else fs.writeBytes path .empty).mapError fun e =>
          Octets.ofText "failed to create file via template " ++
            quoted (Octets.ofText template) ++ Octets.ofText (": " ++ e.reason)
      if isDone then putLine (Octets.ofText path)

def tee : Tool := withArguments
    { letters := "aip", long := [("append", 'a')] } 1
  fun a => do
    let text := (← get).input
    modify fun d => { d with input := [] }
    a.operands.forM fun name => do
      let path := Octets.text name
      if path = "/dev/stderr" then Job.mutter text
      else if path = "/dev/stdout" then put text
      else
        let old := (← get).files.readBytes path
        let before := match a.has 'a', old with
          | true, .ok content => Octets.ofBytes content
          | _, _ => []
        match ← writeFile name (before ++ text) with
        | .ok () => pure ()
        | .error e => complain 1 (shown name ++ Octets.ofText (": " ++ e.reason))
    put text

end SymbolDocs.Script.Tool
