import SymbolDocs.Files.FileSystem
import SymbolDocs.Symbol.OfDeclaration
import SymbolDocs.Xml.Document
/-!
The index of a documentation directory. `index.xml` lists the compounds with their members but only
refers to the declarations; those stand in one document per compound, which is read when it is first
needed and then kept.
-/

namespace SymbolDocs

open Xml (Element)

def readDocument (fs : FileSystem) (path : String) : Except Error Element := do
  let content ← (fs.readText path).mapError .io
  (Xml.parseDocument content).mapError (.xmlFile path)

abbrev Cache := List (String × Element)

def Cache.get? (cache : Cache) (refid : String) : Option Element :=
  (cache.find? fun d => d.1 == refid).map (·.2)

/-- A look-up may fail, and keeps the documents that it has read even if it does. -/
abbrev Lookup := ExceptT Error (StateM Cache)

structure Index where
  dir : String
  root : Element

namespace Index

def ofDirectory (fs : FileSystem) (dir : String) : Except Error Index := do
  let root ← readDocument fs (Path.join dir "index.xml")
  .ok ⟨dir, root⟩

def compounds (index : Index) : List Element :=
  index.root.childrenNamed "compound"

def kindAndName? (compound : Element) : Option (String × String) := do
  let kind ← compound.attr? "kind"
  let name ← compound.child? "name"
  match simpleText name with
  | .ok text => some (kind, text)
  | .error _ => none

def compoundNames (index : Index) : List (String × String) :=
  index.compounds.filterMap kindAndName?

def load (index : Index) (fs : FileSystem) (refid : String) : Lookup Element := do
  match Cache.get? (← get) refid with
  | some document => return document
  | none =>
    let document ← MonadExcept.ofExcept (readDocument fs (Path.join index.dir (refid ++ ".xml")))
    modify fun cache => (refid, document) :: cache
    return document

def targetName (kindref refid : String) (target : Element) : Except Error String :=
  match target.child? "name" with
  | none => .error (.missingField kindref "name")
  | some name =>
    if name.children.isEmpty then .ok (Text.trim name.text)
    else .error (.malformed (.childrenInName kindref refid))

def commonName (kindref refid : String) :
    (first : Option String) → List Element → Except Error String
  | none, [] => .error (.unresolvedReference kindref refid)
  | some name, [] => .ok name
  | none, target :: targets => do
    let name ← targetName kindref refid target
    commonName kindref refid (some name) targets
  | some first, target :: targets => do
    let name ← targetName kindref refid target
    if first = name then commonName kindref refid (some first) targets
    else .error (.ambiguousReference kindref refid first name)

def targets (index : Index) (refid kindref : String) : List Element :=
  index.root.descendants.filter fun e => e.name == kindref && e.attr? "refid" == some refid

def resolve (index : Index) : Resolver := fun refid kindref =>
  commonName kindref refid none (index.targets refid kindref)

def hasName (e : Element) (name : String) : Bool :=
  match e.child? "name" with
  | some child => Text.trim child.text == name
  | none => false

def splitScope (identifier : String) : Except Error (Option String × String) :=
  match Text.cutAtPair ':' ':' identifier.toList with
  | none => .ok (none, identifier)
  | some (scope, name) =>
    if (Text.cutAtPair ':' ':' name).isSome then .error (.nestedScope identifier)
    else .ok (some (String.ofList scope), String.ofList name)

def inScope (scope : Option String) (compound : Element) : Bool :=
  match scope with
  | none => true
  | some name => hasName compound name

def membersNamed (index : Index) (scope : Option String) (name : String) : List Element :=
  (index.compounds.filter (inScope scope)).flatMap fun compound =>
    (compound.childrenNamed "member").filter (hasName · name)

def memberRefids (index : Index) (scope : Option String) (name : String) :
    Except Error (List String) := do
  let refids ← (index.membersNamed scope name).mapM fun m => requiredAttr m "member" "refid"
  .ok refids.eraseDups

def owningCompound (refid : String) : Except Error String :=
  match Text.cutAtLast '_' refid.toList with
  | some (c :: cs, _) => .ok (String.ofList (c :: cs))
  | _ => .error (.invalidRefid refid)

def locateMember (compound : Element) (name identifier : String) : Except Error Element :=
  match (compound.findAll "sectiondef/memberdef").filter (hasName · name) with
  | [] => .error (.unknownIdentifier identifier)
  | [member] => .ok member
  | _ => .error (.ambiguousIdentifier identifier)

/-- More than the number of inner class references in the document, in the documents read so far and
in all that can be read, so that no chain of inner classes without a repetition is longer. -/
def nestingLimit (fs : FileSystem) (cache : Cache) (document : Element) : Nat :=
  fs.byteCount + cache.foldl (fun count d => count + d.2.size) 0 + document.size + 1

def buildCompound (index : Index) (fs : FileSystem) (document : Element) : Lookup Symbol := do
  let limit := nestingLimit fs (← get) document
  Symbol.ofCompound index.resolve (index.load fs) limit document

def collectMember (index : Index) (fs : FileSystem) (refid name identifier : String) :
    Lookup Symbol := do
  let owner ← MonadExcept.ofExcept (owningCompound refid)
  let document ← index.load fs owner
  let compound ← MonadExcept.ofExcept (compoundDef document)
  let member ← MonadExcept.ofExcept (locateMember compound name identifier)
  MonadExcept.ofExcept (Symbol.ofMember index.resolve member)

def collectCompound (index : Index) (fs : FileSystem) (identifier : String) : Lookup Symbol := do
  match index.compounds.filter (hasName · identifier) with
  | [] => throw (.unknownIdentifier identifier)
  | [compound] =>
    let refid ← MonadExcept.ofExcept (requiredAttr compound "compound" "refid")
    index.buildCompound fs (← index.load fs refid)
  | _ => throw (.ambiguousIdentifier identifier)

/-- The symbol of an identifier: a member name, `Compound::member` or a compound name. Members come
before compounds. -/
def collect (index : Index) (fs : FileSystem) (identifier : String) : Lookup Symbol := do
  let (scope, name) ← MonadExcept.ofExcept (splitScope identifier)
  match ← MonadExcept.ofExcept (index.memberRefids scope name) with
  | [] => index.collectCompound fs identifier
  | [refid] => index.collectMember fs refid name identifier
  | _ => throw (.ambiguousIdentifier identifier)

end Index

end SymbolDocs
