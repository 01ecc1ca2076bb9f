import SymbolDocs.Text.Cut

namespace SymbolDocs

inductive Direction where
  | input
  | output
  | both
  deriving DecidableEq, Repr

def Direction.name : Direction → String
  | input => "in"
  | output => "out"
  | both => "inout"

def Direction.ofName? : String → Option Direction
  | "in" => some input
  | "out" => some output
  | "inout" => some both
  | _ => none

/-- One unit of documentation. A paragraph is also the container for a sequence of siblings. -/
inductive Description where
  | text (contents : String)
  | paragraph (contents : List Description)
  | admonition (style title : String) (contents : Description)
  | parameter (name : String) (type : Option String) (direction : Option Direction)
      (description : Description)
  | list (title : Option String) (contents : List Description)
  | returns (title : String) (description : Description)
  deriving Inhabited, Repr

namespace Description

def listTitle : Description → Option String
  | list title _ => title
  | _ => none

mutual

def leaves : Description → List String
  | text contents => [contents]
  | paragraph contents => leavesAll contents
  | list _ contents => leavesAll contents
  | admonition _ _ contents => leaves contents
  | parameter _ _ _ description => leaves description
  | returns _ description => leaves description

def leavesAll : List Description → List String
  | [] => []
  | d :: ds => leaves d ++ leavesAll ds

end

def plainText (d : Description) : String :=
  Text.joinWith " " d.leaves

end Description

end SymbolDocs
