import SymbolDocs.Description.OfMarkup
/-!
Hiding parts of symbols. Whatever is hidden disappears with everything below it; what is left is
composed again, because two texts may have become neighbours.
-/

namespace SymbolDocs

structure Visibility where
  description : Bool := true
  initializer : Bool := true
  preconditions : Bool := true
  postconditions : Bool := true
  returns : Bool := true
  deriving DecidableEq, Repr

def Visibility.showsEverything (v : Visibility) : Bool :=
  v.description && v.initializer && v.preconditions && v.postconditions && v.returns

namespace Description

def isHidden (v : Visibility) : Description → Bool
  | returns _ _ => !v.returns
  | list (some title) _ =>
    if title = preconditions then !v.preconditions
    else if title = postconditions then !v.postconditions
    else false
  | _ => false

def isEmptyParagraph : Description → Bool
  | paragraph [] => true
  | _ => false

mutual

/-- The visible part of a node. A body that is hidden becomes an empty paragraph. -/
def prune (v : Visibility) : Description → Option Description
  | text contents => some (text contents)
  | paragraph contents => some (paragraph (compose (pruneEach v contents)))
  | list title contents =>
    if isHidden v (list title contents) then none
    else some (list title (compose (pruneEach v contents)))
  | admonition style title contents =>
    some (admonition style title ((prune v contents).getD (paragraph [])))
  | parameter name type direction description =>
    some (parameter name type direction ((prune v description).getD (paragraph [])))
  | returns title description =>
    if isHidden v (returns title description) then none
    else some (returns title ((prune v description).getD (paragraph [])))

def pruneEach (v : Visibility) : List Description → List Description
  | [] => []
  | d :: ds => (prune v d).toList ++ pruneEach v ds

end

def visible (v : Visibility) (d : Option Description) : Option Description :=
  if v.description then (d.bind (prune v)).filter fun d => !isEmptyParagraph d else none

end Description

namespace Symbol

open Description (visible)

def pruneValue (v : Visibility) (value : EnumValue) : EnumValue :=
  { value with description := visible v value.description }

mutual

def prune (v : Visibility) : Symbol → Symbol
  | function f => function { f with description := visible v f.description }
  | define d => define { d with
      description := visible v d.description
      value := if v.initializer then d.value else none }
  | enum e => enum { e with
      description := visible v e.description
      values := e.values.map (pruneValue v) }
  | .variable x => .variable { x with
      description := visible v x.description
      initializer := if v.initializer then x.initializer else none }
  | compound head members =>
    compound { head with description := visible v head.description } (pruneAll v members)

def pruneAll (v : Visibility) : List Symbol → List Symbol
  | [] => []
  | s :: ss => prune v s :: pruneAll v ss

end

/-- The symbol as it is to be shown. Where nothing is hidden it stays untouched, so that a
description without contents is kept. -/
def shown (v : Visibility) (s : Symbol) : Symbol :=
  if v.showsEverything then s else s.prune v

end Symbol

end SymbolDocs
