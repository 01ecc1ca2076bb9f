namespace SymbolDocs

inductive OsError where
  | notFound
  | notExecutable
  | permissionDenied
  | alreadyExists
  | notADirectory
  | isADirectory
  | nameTooLong
  | notEmpty
  | notText
  | nulInName
  | nulInArgument
  | emptyPath
  deriving DecidableEq, Repr

namespace OsError

def reason : OsError → String
  | notFound => "No such file or directory"
  | notExecutable => "Exec format error"
  | permissionDenied => "Permission denied"
  | alreadyExists => "File exists"
  | notADirectory => "Not a directory"
  | isADirectory => "Is a directory"
  | nameTooLong => "File name too long"
  | notEmpty => "Directory not empty"
  | notText => "stream did not contain valid UTF-8"
  | nulInName => "file name contained an unexpected NUL byte"
  | nulInArgument => "nul byte found in provided data"
  | emptyPath => "cannot make an empty path absolute"

def number? : OsError → Option Nat
  | notFound => some 2
  | notExecutable => some 8
  | permissionDenied => some 13
  | alreadyExists => some 17
  | notADirectory => some 20
  | isADirectory => some 21
  | nameTooLong => some 36
  | notEmpty => some 39
  | _ => none

def message (e : OsError) : String :=
  match e.number? with
  | some number => e.reason ++ s!" (os error {number})"
  | none => e.reason

end OsError

end SymbolDocs
