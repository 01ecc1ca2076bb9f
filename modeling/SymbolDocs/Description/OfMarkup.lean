import SymbolDocs.Description.Compose
import SymbolDocs.Markup
import SymbolDocs.Symbol.Basic
/-!
Descriptions read from paragraphs. A paragraph mixes character data, inline markup, which is
rendered to text, and blocks (nested paragraphs, sections, parameter lists and item lists), which
become nodes of their own. Siblings are composed from left to right.
-/

namespace SymbolDocs

open Xml (Element)

structure DescriptionContext where
  resolver : Option Resolver
  parameters : List Parameter

inductive Block where
  | paragraph
  | simpleSection
  | parameterList
  | itemizedList
  deriving DecidableEq, Repr

def Block.ofTag? : String → Option Block
  | "para" => some paragraph
  | "simplesect" => some simpleSection
  | "parameterlist" => some parameterList
  | "itemizedlist" => some itemizedList
  | _ => none

def admonition? : String → Option (String × String)
  | "note" => some ("note", "Note")
  | "warning" => some ("warning", "Warning")
  | "todo" => some ("warning", "TODO")
  | "bug" => some ("bug", "Bug")
  | "remark" => some ("info", "Remark")
  | _ => none

def preconditions : String := "Preconditions"

def postconditions : String := "Postconditions"

def sectionNode (kind : String) (body : Description) : Except Error Description :=
  if kind = "return" then .ok (.returns "Returns" body)
  else match admonition? kind with
    | some (style, title) => .ok (.admonition style title body)
    | none =>
      if kind = "pre" then .ok (.list (some preconditions) [body])
      else if kind = "post" then .ok (.list (some postconditions) [body])
      else .error (.unsupportedSection kind)

/-- One paragraph stands for itself; any other number is wrapped in one. -/
def together : List Description → Description
  | [d] => d
  | ds => .paragraph ds

namespace DescriptionContext

def renderer (ctx : DescriptionContext) : Renderer :=
  ⟨ctx.resolver, none⟩

def typeOf? (ctx : DescriptionContext) (name : String) : Option String :=
  (ctx.parameters.find? fun p => p.name == some name).bind (·.type)

end DescriptionContext

def documentedParameter (item : Element) : Except Error (String × Option Direction) :=
  match item.findAll "parameternamelist/parametername" with
  | [node] => do
    let name ← simpleText node
    match node.attr? "direction" with
    | none => .ok (name, none)
    | some value =>
      match Direction.ofName? value with
      | some direction => .ok (name, some direction)
      | none => .error (.malformed (.direction value))
  | nodes => .error (.malformed (.parameterNames nodes.length))

namespace Description

variable (ctx : DescriptionContext)

mutual

def ofParagraph : Element → Except Error Description
  | .mk name _ own children _ =>
    if name = "para" then
      (composeChildren (merge [] (.text own)) children).map .paragraph
    else .error (.malformed (.notAParagraph name))

def composeChildren (before : List Description) :
    List Element → Except Error (List Description)
  | [] => .ok before
  | e :: es =>
    match Block.ofTag? e.name with
    | none => do
      let text ← ctx.renderer.render e
      composeChildren (merge before (.text text)) es
    | some .paragraph => do
      let block ← ofParagraph e
      composeChildren (merge (merge before block) (.text e.tail)) es
    | some .simpleSection => do
      let block ← ofSection e
      composeChildren (merge (merge before block) (.text e.tail)) es
    | some .parameterList => do
      let block ← ofParameterList e
      composeChildren (merge (merge before block) (.text e.tail)) es
    | some .itemizedList => do
      let block ← ofItemizedList e
      composeChildren (merge (merge before block) (.text e.tail)) es

/-- A `simplesect` element. Its body is read before its kind is judged. -/
def ofSection : Element → Except Error Description
  | .mk name attributes own children tail => do
    let e := Element.mk name attributes own children tail
    if e.hasDirectText then .error (.malformed .textInSection)
    else
      let kind ← requiredAttr e "simplesect" "kind"
      let body ← paragraphsAmong children
      sectionNode kind (together body)

def ofParameterList : Element → Except Error Description
  | .mk name attributes own children tail =>
    if (Element.mk name attributes own children tail).hasDirectText then
      .error (.malformed .textInParameterList)
    else (parametersAmong children).map (.list (some "Parameters"))

def ofItemizedList : Element → Except Error Description
  | .mk _ _ _ children _ => (listItems children).map (.list none)

def paragraphsAmong : List Element → Except Error (List Description)
  | [] => .ok []
  | e :: es =>
    if e.name = "para" then do
      let first ← ofParagraph e
      let rest ← paragraphsAmong es
      .ok (first :: rest)
    else paragraphsAmong es

def parametersAmong : List Element → Except Error (List Description)
  | [] => .ok []
  | .mk name attributes own children tail :: es =>
    if name = "parameteritem" then do
      let (documented, direction) ←
        documentedParameter (.mk name attributes own children tail)
      let body ← parameterParagraphs children
      let rest ← parametersAmong es
      .ok (.parameter documented (ctx.typeOf? documented) direction (together body) :: rest)
    else parametersAmong es

def parameterParagraphs : List Element → Except Error (List Description)
  | [] => .ok []
  | .mk name _ _ children _ :: es =>
    if name = "parameterdescription" then do
      let first ← paragraphsAmong children
      let rest ← parameterParagraphs es
      .ok (first ++ rest)
    else parameterParagraphs es

def listItems : List Element → Except Error (List Description)
  | [] => .ok []
  | .mk name _ _ children _ :: es =>
    if name = "listitem" then
      match children.find? fun c => c.name != "para" with
      | some other => .error (.malformed (.notAnItemParagraph other.name))
      | none => do
        let body ← paragraphsAmong children
        let rest ← listItems es
        .ok (together body :: rest)
    else .error (.malformed (.notAListItem name))

end

def ofParagraphs (es : List Element) : Except Error Description :=
  (es.mapM (ofParagraph ctx)).map together

def ofDeclaration (e : Element) : Except Error (Option Description) :=
  match e.findAll "briefdescription/para" ++ e.findAll "detaileddescription/para" with
  | [] => .ok none
  | paragraphs => (ofParagraphs ctx paragraphs).map some

end Description

end SymbolDocs
