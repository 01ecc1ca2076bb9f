import SymbolDocs.Description.Basic

namespace SymbolDocs

structure Location where
  file : String
  line : Nat
  column : Nat
  deriving DecidableEq, Repr

structure Parameter where
  type : Option String
  name : Option String
  deriving DecidableEq, Repr

structure Function where
  type : String
  name : String
  parameters : List Parameter
  description : Option Description
  location : Location
  deriving Repr

structure Define where
  name : String
  parameters : Option (List Parameter)
  value : Option String
  description : Option Description
  location : Location
  deriving Repr

structure EnumValue where
  name : String
  initializer : Option String
  description : Option Description
  deriving Repr

structure Enumeration where
  name : String
  values : List EnumValue
  description : Option Description
  location : Location
  deriving Repr

structure Variable where
  type : String
  name : String
  qualifiedName : String
  initializer : Option String
  description : Option Description
  location : Location
  deriving Repr

inductive CompoundType where
  | group
  | struct
  | union
  deriving DecidableEq, Repr

def CompoundType.name : CompoundType → String
  | group => "group"
  | struct => "struct"
  | union => "union"

def CompoundType.ofName? : String → Option CompoundType
  | "group" => some group
  | "struct" => some struct
  | "union" => some union
  | _ => none

structure CompoundHead where
  type : CompoundType
  name : String
  title : String
  description : Option Description
  location : Option Location
  deriving Repr

/-- A documented symbol. The members of a compound are its inner compounds and then its own
declarations, each in order. -/
inductive Symbol where
  | function (f : Function)
  | define (d : Define)
  | enum (e : Enumeration)
  | variable (v : Variable)
  | compound (head : CompoundHead) (members : List Symbol)
  deriving Repr

namespace Symbol

def kind : Symbol → String
  | function _ => "function"
  | define _ => "define"
  | enum _ => "enum"
  | .variable _ => "variable"
  | compound _ _ => "compound"

def name : Symbol → String
  | function f => f.name
  | define d => d.name
  | enum e => e.name
  | .variable v => v.name
  | compound head _ => head.name

def qualifiedName : Symbol → String
  | .variable v => v.qualifiedName
  | s => s.name

def role : Symbol → String
  | function _ => "func"
  | define _ => "macro"
  | enum _ => "enum"
  | .variable _ => "var"
  | compound head _ => head.type.name

def description : Symbol → Option Description
  | function f => f.description
  | define d => d.description
  | enum e => e.description
  | .variable v => v.description
  | compound head _ => head.description

def location : Symbol → Option Location
  | function f => some f.location
  | define d => some d.location
  | enum e => some e.location
  | .variable v => some v.location
  | compound head _ => head.location

end Symbol

structure RefContext where
  domain : String
  role : String
  origin : String
  filepath : String
  lineno : Nat
  deriving DecidableEq, Repr

/-- A symbol without a location points nowhere: an empty path and line 0. -/
def Symbol.refContext (s : Symbol) : RefContext where
  domain := "c"
  role := s.role
  origin := s.qualifiedName
  filepath := (s.location.map (·.file)).getD ""
  lineno := (s.location.map (·.line)).getD 0

end SymbolDocs
