import SymbolDocs.Number.Operations
import SymbolDocs.Text.Octets

namespace SymbolDocs.Script.Awk

open Text (Octets)

inductive Arithmetic where
  | add
  | sub
  | mul
  | div
  | mod
  | pow
  deriving DecidableEq, Repr

inductive Relation where
  | less
  | lessOrSame
  | same
  | different
  | more
  | moreOrSame
  deriving DecidableEq, Repr

inductive Expr where
  | number (x : Binary64)
  | text (t : Octets)
  | pattern (source : Octets)
  | name (n : Octets)
  | element (array : Octets) (index : List Expr)
  | field (number : Expr)
  | assign (op : Option Arithmetic) (target value : Expr)
  | conditional (condition yes no : Expr)
  | or (a b : Expr)
  | and (a b : Expr)
  | not (e : Expr)
  | isIn (index : List Expr) (array : Octets)
  | matched (isNegated : Bool) (e regex : Expr)
  | relation (r : Relation) (a b : Expr)
  | joined (a b : Expr)
  | arithmetic (op : Arithmetic) (a b : Expr)
  | negated (e : Expr)
  | plus (e : Expr)
  | step (givesNew : Bool) (amount : Int) (target : Expr)
  | call (function : Octets) (arguments : List Expr)
  | tuple (es : List Expr)
  | readLine (target file command : Option Expr)

instance : Inhabited Expr := ⟨.text []⟩

inductive Outlet where
  | file
  | append
  | command
  deriving DecidableEq, Repr

inductive Statement where
  | nothing
  | expression (e : Expr)
  | print (isFormatted : Bool) (arguments : List Expr) (outlet : Option (Outlet × Expr))
  | block (body : List Statement)
  | choice (condition : Expr) (yes no : Statement)
  | loop (condition : Expr) (body : Statement)
  | loopAfter (body : Statement) (condition : Expr)
  | loopFor (start : Statement) (condition : Option Expr) (step body : Statement)
  | loopIn (name array : Octets) (body : Statement)
  | nextRecord
  | leave (status : Option Expr)
  | leaveLoop
  | repeatLoop
  | give (value : Option Expr)
  | erase (array : Octets) (index : List Expr)

instance : Inhabited Statement := ⟨.nothing⟩

inductive Pattern where
  | atStart
  | atEnd
  | always
  | holding (e : Expr)
  | fromTo (first last : Expr)

structure Rule where
  pattern : Pattern
  body : Option Statement

structure Function where
  name : Octets
  parameters : List Octets
  body : Statement

structure Program where
  rules : List Rule := []
  functions : List Function := []

end SymbolDocs.Script.Awk
