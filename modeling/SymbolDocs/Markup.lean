import SymbolDocs.Error
import SymbolDocs.Xml.Element
/-!
Inline markup rendered as Markdown with embedded HTML tags. An element gives its opening text, its
own text, its rendered children, its closing text and its tail, so siblings come out in document
order.
-/

namespace SymbolDocs

open Xml (Element)

inductive Markup where
  | bold
  | emphasis
  | computerOutput
  | programListing
  | verbatim
  | codeLine
  | highlight
  | ref
  | space
  deriving DecidableEq, Repr

namespace Markup

def ofTag? : String → Option Markup
  | "bold" => some bold
  | "emphasis" => some emphasis
  | "computeroutput" => some computerOutput
  | "programlisting" => some programListing
  | "verbatim" => some verbatim
  | "codeline" => some codeLine
  | "highlight" => some highlight
  | "ref" => some ref
  | "sp" => some space
  | _ => none

def inCode : List Markup :=
  [codeLine, highlight, space, ref]

def inNames : List Markup :=
  [ref]

def brackets : Markup → String × String
  | bold => ("<b>", "</b>")
  | emphasis => ("<em>", "</em>")
  | computerOutput => ("<code>", "</code>")
  | verbatim => ("<pre><code class=\"language-cpp\">", "</code></pre>")
  | space => (" ", "")
  | programListing | codeLine | highlight | ref => ("", "")

end Markup

abbrev Resolver := (refid kindref : String) → Except Error String

/-- How markup is rendered: without a resolver references keep their text only, and without a list
all known markup is allowed. -/
structure Renderer where
  resolver : Option Resolver
  allowed : Option (List Markup)

namespace Renderer

def allows (r : Renderer) (m : Markup) : Bool :=
  match r.allowed with
  | none => true
  | some ms => ms.contains m

end Renderer

def escapeBrackets (s : String) : String :=
  String.ofList (Text.replaceChar ']' ['\\', ']'] (Text.replaceChar '[' ['\\', '['] s.toList))

def listingLanguage (e : Element) : Except Error String :=
  match e.attr? "filename" with
  | none => .ok ""
  | some filename =>
    match filename.toList with
    | '.' :: extension => .ok (String.ofList extension)
    | _ => .error (.malformed (.listingWithoutExtension filename))

def requiredAttr (e : Element) (element key : String) : Except Error String :=
  match e.attr? key with
  | some value => .ok value
  | none => .error (.missingField element key)

theorem requiredAttr_eq_ok_iff (e : Element) (element key value : String) :
    requiredAttr e element key = .ok value ↔ e.attr? key = some value := by
  unfold requiredAttr
  cases e.attr? key <;> simp

theorem requiredAttr_of_none {e : Element} {key : String} (h : e.attr? key = none)
    (element : String) : requiredAttr e element key = .error (.missingField element key) := by
  rw [requiredAttr, h]

/-- A reference is its text, or with a resolver a link from its text to the name it refers to. -/
def renderRef (resolver : Option Resolver) (e : Element) : Except Error String :=
  if !e.children.isEmpty then
    .error (.malformed (.childrenInRef ((e.attr? "refid").getD "")))
  else match resolver with
    | none => .ok (e.text ++ e.tail)
    | some resolve => do
      let refid ← requiredAttr e "ref" "refid"
      let kindref ← requiredAttr e "ref" "kindref"
      let target ← resolve refid kindref
      .ok ("[" ++ escapeBrackets e.text ++ "][" ++ target ++ "]" ++ e.tail)

namespace Renderer

mutual

def render (r : Renderer) : Element → Except Error String
  | .mk name attributes text children tail => do
    let e := Element.mk name attributes text children tail
    match Markup.ofTag? name with
    | none => .error (.unsupportedMarkup name)
    | some m =>
      if !r.allows m then .error (.illegalMarkup name)
      else match m with
        | .ref => renderRef r.resolver e
        | .programListing =>
          let language ← listingLanguage e
          let inside ← renderAll { r with allowed := some Markup.inCode } children
          .ok ("\n```" ++ language ++ "\n" ++ text ++ inside ++ "```\n" ++ tail)
        | m =>
          let inside ← renderAll r children
          .ok (m.brackets.1 ++ text ++ inside ++ m.brackets.2 ++ tail)

def renderAll (r : Renderer) : List Element → Except Error String
  | [] => .ok ""
  | e :: es => do
    let first ← render r e
    let rest ← renderAll r es
    .ok (first ++ rest)

end

def renderContents (r : Renderer) (e : Element) : Except Error String := do
  .ok (e.text ++ (← r.renderAll e.children))

end Renderer

def simpleText (e : Element) : Except Error String :=
  (Renderer.renderContents ⟨none, some Markup.inNames⟩ e).map Text.trim

def normalizeType (type : String) : String :=
  String.ofList <|
    Text.replacePair ' ' '*' '*' <| Text.replacePair ' ' '&' '&' <|
    Text.replacePair ' ' '>' '>' <| Text.replacePair '<' ' ' '<' type.toList

end SymbolDocs
