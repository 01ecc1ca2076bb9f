import SymbolDocs.Xml.Token

namespace SymbolDocs.Xml

inductive Event where
  | start (name : String) (attributes : List Attribute)
  | empty (name : String) (attributes : List Attribute)
  | finish
  | text (data : String)
  | cdata (data : String)
  | other
  deriving DecidableEq, Repr

def Event.ofToken : Token → Except Fault Event
  | .text raw position =>
    ((unescape raw).mapError fun fault => .markup position (.escape fault)).map .text
  | .cdata raw => .ok (.cdata (String.ofList raw))
  | .start tag => (tagAttributes tag).map (.start (String.ofList (tagName tag)))
  | .empty tag => (tagAttributes tag).map (.empty (String.ofList (tagName tag)))
  | .finish => .ok .finish
  | .other => .ok .other

structure Frame where
  name : String
  attributes : List Attribute
  text : String
  children : List Element
  deriving Repr

def Frame.close (f : Frame) : Element :=
  .mk f.name f.attributes f.text f.children.reverse ""

def Frame.addText (f : Frame) (data : String) : Frame :=
  match f.children with
  | [] => { f with text := f.text ++ data }
  | last :: before => { f with children := last.addTail data :: before }

structure Builder where
  opened : List Frame
  root : Option Element
  deriving Repr

namespace Builder

def empty : Builder :=
  ⟨[], none⟩

def attach (b : Builder) (e : Element) : Except Fault Builder :=
  match b.opened, b.root with
  | f :: fs, _ => .ok { b with opened := { f with children := e :: f.children } :: fs }
  | [], some _ => .error (.secondRoot e.name)
  | [], none => .ok { b with root := some e }

def addText (b : Builder) (data : String) : Builder :=
  match b.opened with
  | [] => b
  | f :: fs => { b with opened := f.addText data :: fs }

def add (b : Builder) : Event → Except Fault Builder
  | .start name attributes => .ok { b with opened := ⟨name, attributes, "", []⟩ :: b.opened }
  | .empty name attributes => b.attach (.mk name attributes "" [] "")
  | .finish =>
    match b.opened with
    | [] => .error .strayEnd
    | f :: fs => attach { b with opened := fs } f.close
  | .text data => .ok (b.addText data)
  | .cdata data => .ok (b.addText data)
  | .other => .ok b

def result (b : Builder) : Except Fault Element :=
  match b.opened, b.root with
  | f :: _, _ => .error (.unclosed f.name)
  | [], some e => .ok e
  | [], none => .error .noRoot

end Builder

def Element.ofEvents (events : List Event) : Except Fault Element := do
  (← events.foldlM Builder.add Builder.empty).result

/-- The root element of a document. Tokens are taken in order, so the first fault is the one
reported, whether it lies in the markup or in the tree. -/
def parseDocument (content : String) : Except Fault Element := do
  let last ← (tokenize content.toList).foldlM
    (fun b token => do b.add (← Event.ofToken (← token))) Builder.empty
  last.result

end SymbolDocs.Xml
