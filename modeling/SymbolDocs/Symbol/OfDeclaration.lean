import SymbolDocs.Description.OfMarkup
import SymbolDocs.Text.Digits

namespace SymbolDocs

open Xml (Element)

def readChild? (e : Element) (tag : String) (read : Element → Except Error α) :
    Except Error (Option α) :=
  match e.child? tag with
  | none => .ok none
  | some child => (read child).map some

def requiredName (e : Element) (tag : String) : Except Error String :=
  match e.child? tag with
  | some child => simpleText child
  | none => .error (.missingField e.name tag)

def typeText (e : Element) : Except Error String :=
  (simpleText e).map normalizeType

def requiredType (e : Element) : Except Error String := do
  match ← readChild? e "type" typeText with
  | some type => .ok type
  | none => .error (.missingField "memberdef" "type")

def initializer? (e : Element) : Except Error (Option String) :=
  readChild? e "initializer" simpleText

def lineNumber? (s : String) : Option Nat :=
  let digits := match s.toList with
    | '+' :: r => r
    | r => r
  (Text.decimal? digits).filter (· < 0x100000000)

def numericAttr (e : Element) (key : String) : Except Error Nat :=
  match (e.attr? key).bind lineNumber? with
  | some n => .ok n
  | none => .error (.missingField e.name key)

def readLocation (e : Element) : Except Error Location := do
  let file ← requiredAttr e "location" "file"
  let line ← numericAttr e "line"
  let column ← numericAttr e "column"
  .ok ⟨file, line, column⟩

def location? (e : Element) : Except Error (Option Location) :=
  readChild? e "location" readLocation

def requiredLocation (e : Element) : Except Error Location := do
  match ← location? e with
  | some location => .ok location
  | none => .error (.missingField e.name "location")

def functionParameters (function : String) (e : Element) : Except Error (List Parameter) :=
  (e.childrenNamed "param").mapM fun param => do
    match ← readChild? param "type" typeText with
    | none => .error (.missingParameterType function)
    | some type => do
      let name ← readChild? param "declname" simpleText
      .ok ⟨some type, name⟩

def macroParameter (define : String) (param : Element) : Except Error Parameter :=
  match param.child? "defname" with
  | none => .error (.missingParameterName define)
  | some defname => do
    let type ← readChild? param "type" typeText
    let name ← simpleText defname
    .ok ⟨type, some name⟩

/-- The parameters of a macro. Without any `param` there is no parameter list; a single `param`
without a name stands for an empty one. -/
def macroParameters (define : String) (e : Element) : Except Error (Option (List Parameter)) :=
  match e.childrenNamed "param" with
  | [] => .ok none
  | [param] =>
    if (param.child? "defname").isNone then .ok (some [])
    else (macroParameter define param).map fun p => some [p]
  | params => (params.mapM (macroParameter define)).map some

namespace Symbol

variable (resolve : Resolver)

def describe (parameters : List Parameter) (e : Element) : Except Error (Option Description) :=
  Description.ofDeclaration ⟨some resolve, parameters⟩ e

def readFunction (e : Element) : Except Error Function := do
  let name ← requiredName e "name"
  let type ← requiredType e
  let parameters ← functionParameters name e
  let description ← describe resolve parameters e
  let location ← requiredLocation e
  .ok { type, name, parameters, description, location }

def readDefine (e : Element) : Except Error Define := do
  let name ← requiredName e "name"
  let parameters ← macroParameters name e
  let value ← initializer? e
  let description ← describe resolve [] e
  let location ← requiredLocation e
  .ok { name, parameters, value, description, location }

def readEnumValue (e : Element) : Except Error EnumValue := do
  let name ← requiredName e "name"
  let initializer ← initializer? e
  let description ← describe resolve [] e
  .ok { name, initializer, description }

def readEnumeration (e : Element) : Except Error Enumeration := do
  let values ← (e.childrenNamed "enumvalue").mapM (readEnumValue resolve)
  let name ← requiredName e "name"
  let description ← describe resolve [] e
  let location ← requiredLocation e
  .ok { name, values, description, location }

def readVariable (e : Element) : Except Error Variable := do
  let name ← requiredName e "name"
  let type ← requiredType e
  let qualified ← readChild? e "qualifiedname" simpleText
  let initializer ← initializer? e
  let description ← describe resolve [] e
  let location ← requiredLocation e
  .ok { type, name, qualifiedName := qualified.getD name, initializer, description, location }

def ofMember (e : Element) : Except Error Symbol := do
  match ← requiredAttr e e.name "kind" with
  | "function" => (readFunction resolve e).map .function
  | "define" => (readDefine resolve e).map .define
  | "enum" => (readEnumeration resolve e).map .enum
  | "variable" => (readVariable resolve e).map .variable
  | kind => .error (.unsupportedMember kind)

end Symbol

def compoundDef (document : Element) : Except Error Element :=
  match document.child? "compounddef" with
  | some e => .ok e
  | none => .error (.missingField document.name "compounddef")

structure CompoundTitle where
  name : String
  type : CompoundType
  title : String
  deriving DecidableEq, Repr

def readCompoundTitle (e : Element) : Except Error CompoundTitle := do
  let name ← requiredName e "compoundname"
  let kind ← requiredAttr e "compounddef" "kind"
  match CompoundType.ofName? kind with
  | none => .error (.unsupportedCompound kind)
  | some type => do
    let title ← readChild? e "title" simpleText
    .ok { name, type, title := title.getD name }

namespace Symbol

variable {m : Type → Type} [Monad m] [MonadExceptOf Error m]

/-- The symbol of a compound document, with the inner compounds that `load` finds by their refids.
Inner compounds may nest less than `depth` deep. -/
def ofCompound (resolve : Resolver) (load : String → m Element) : (depth : Nat) → Element → m Symbol
  | 0, _ => throw .endlessNesting
  | depth + 1, document => do
    let e ← MonadExcept.ofExcept (compoundDef document)
    let head ← MonadExcept.ofExcept (readCompoundTitle e)
    let inner ← (e.childrenNamed "innerclass").mapM fun child => do
      let refid ← MonadExcept.ofExcept (requiredAttr child "innerclass" "refid")
      ofCompound resolve load depth (← load refid)
    let members ← MonadExcept.ofExcept ((e.findAll "sectiondef/memberdef").mapM (ofMember resolve))
    let description ← MonadExcept.ofExcept (describe resolve [] e)
    let location ← MonadExcept.ofExcept (location? e)
    return .compound ⟨head.type, head.name, head.title, description, location⟩ (inner ++ members)

end Symbol

end SymbolDocs
