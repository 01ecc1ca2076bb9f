import SymbolDocs.Text.Blank
import SymbolDocs.Text.Cut
/-!
Element trees with mixed content. An element keeps the character data before its first child in
`text`, and the character data between its own end and the next sibling (or the end of its parent)
in `tail`, so the tree holds everything inside the root in document order.
-/

namespace SymbolDocs.Xml

abbrev Attribute := String × String

inductive Element where
  | mk (name : String) (attributes : List Attribute) (text : String) (children : List Element)
      (tail : String)
  deriving Inhabited, Repr

namespace Element

def name : Element → String
  | mk n _ _ _ _ => n

def attributes : Element → List Attribute
  | mk _ as _ _ _ => as

def text : Element → String
  | mk _ _ t _ _ => t

def children : Element → List Element
  | mk _ _ _ cs _ => cs

def tail : Element → String
  | mk _ _ _ _ t => t

def addTail : Element → String → Element
  | mk n as t cs tl, s => mk n as t cs (tl ++ s)

def attr? (e : Element) (key : String) : Option String :=
  (e.attributes.find? fun a => a.1 == key).map (·.2)

def child? (e : Element) (tag : String) : Option Element :=
  e.children.find? fun c => c.name == tag

def childrenNamed (e : Element) (tag : String) : List Element :=
  e.children.filter fun c => c.name == tag

def select : List Element → List String → List Element
  | es, [] => es
  | es, step :: steps => select (es.flatMap fun e => e.childrenNamed step) steps

def pathSteps (path : String) : List String :=
  (Text.splitOn '/' path.toList).map String.ofList

def findAll (e : Element) (path : String) : List Element :=
  select [e] (pathSteps path)

mutual

def preorder : Element → List Element
  | mk n as t cs tl => mk n as t cs tl :: preorderAll cs

def preorderAll : List Element → List Element
  | [] => []
  | e :: es => preorder e ++ preorderAll es

end

mutual

def size : Element → Nat
  | mk _ _ _ cs _ => sizeAll cs + 1

def sizeAll : List Element → Nat
  | [] => 0
  | e :: es => size e + sizeAll es

end

/-- A traversal with a stack of pending elements, the next one first. One element is taken per
step; it is followed by its children and then by what was pending before. -/
def traverse : Nat → List Element → List Element
  | 0, _ => []
  | _ + 1, [] => []
  | n + 1, e :: stack => e :: traverse n (e.children ++ stack)

def descendants (e : Element) : List Element :=
  traverse (sizeAll e.children) e.children

def hasText (e : Element) : Bool :=
  !Text.isBlankText e.text

def hasDirectText (e : Element) : Bool :=
  e.hasText || e.children.any fun c => !Text.isBlankText c.tail

@[simp] theorem select_nil (es : List Element) : select es [] = es := by
  rw [select]

theorem select_append (es : List Element) (p q : List String) :
    select es (p ++ q) = select (select es p) q := by
  induction p generalizing es with
  | nil => simp
  | cons s p ih => simp [select, ih]

end Element

end SymbolDocs.Xml
