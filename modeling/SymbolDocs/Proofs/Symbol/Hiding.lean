import SymbolDocs.Proofs.Description.Visible
import SymbolDocs.Proofs.Symbol.Pruning
/-!
What hiding takes from a symbol, and that it takes nothing else: only descriptions and initial
values change, and of them exactly what is to be hidden is gone, in members of members as well.
-/

namespace SymbolDocs.Symbol

open Description (Hidden visible)

mutual

def mapParts (f : Option Description → Option Description) (g : Option String → Option String) :
    Symbol → Symbol
  | function x => function { x with description := f x.description }
  | define x => define { x with description := f x.description, value := g x.value }
  | enum x => enum { x with
      description := f x.description
      values := x.values.map fun value => { value with description := f value.description } }
  | .variable x => .variable { x with
      description := f x.description
      initializer := g x.initializer }
  | compound head members =>
    compound { head with description := f head.description } (mapPartsAll f g members)

def mapPartsAll (f : Option Description → Option Description)
    (g : Option String → Option String) : List Symbol → List Symbol
  | [] => []
  | s :: ss => mapParts f g s :: mapPartsAll f g ss

end

def declared (s : Symbol) : Symbol :=
  s.mapParts (fun _ => none) fun _ => none

mutual

def initialValues : Symbol → List String
  | function _ => []
  | define x => x.value.toList
  | enum _ => []
  | .variable x => x.initializer.toList
  | compound _ members => initialValuesAll members

def initialValuesAll : List Symbol → List String
  | [] => []
  | s :: ss => initialValues s ++ initialValuesAll ss

end

section MapParts

variable (f f' : Option Description → Option Description) (g g' : Option String → Option String)

theorem mapPartsAll_eq_map (ss : List Symbol) : mapPartsAll f g ss = ss.map (mapParts f g) := by
  induction ss with
  | nil => rfl
  | cons s ss ih => rw [mapPartsAll, ih, List.map_cons]

end MapParts

/-- Pruning touches descriptions and initial values, and nothing else. -/
theorem prune_eq_mapParts (v : Visibility) (s : Symbol) :
    s.prune v = s.mapParts (visible v) fun value => if v.initializer then value else none := by
  induction s using Symbol.induction with
  | function x => rfl
  | define x => rfl
  | enum x => rfl
  | variable_ x => rfl
  | compound head members ih =>
    rw [prune, mapParts, pruneAll_eq_map, mapPartsAll_eq_map, List.map_congr_left ih]

end SymbolDocs.Symbol
