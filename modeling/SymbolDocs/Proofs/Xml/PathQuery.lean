import Mathlib.Data.List.Basic
import SymbolDocs.Proofs.Text.Cut
import SymbolDocs.Proofs.Xml.Descendants
/-!
Queries by a path of names. A query goes down level by level, keeping what has the next name; what it
finds are the descendants to whose addresses the names of the path lead, in document order.
-/

namespace SymbolDocs.Xml.Element

def namesAlong : Element → List Nat → List String
  | _, [] => []
  | e, i :: a =>
    match e.children[i]? with
    | some c => c.name :: c.namesAlong a
    | none => []

def placesNamed (e : Element) (steps : List String) : List (List Nat) :=
  e.places.filter fun a => e.namesAlong a == steps

theorem namesAlong_cons {e c : Element} {i : Nat} (h : e.children[i]? = some c) (a : List Nat) :
    e.namesAlong (i :: a) = c.name :: c.namesAlong a := by
  rw [namesAlong, h]

theorem namesAlong_ne_nil {e : Element} {a : List Nat} (h : a ∈ e.addresses) :
    e.namesAlong a ≠ [] := by
  obtain ⟨i, c, b, hc, -, rfl⟩ := mem_placesFrom.mp h
  rw [Nat.zero_add, namesAlong_cons hc]
  exact List.cons_ne_nil _ _

theorem placesNamed_nil (e : Element) : e.placesNamed [] = [[]] := by
  have hnone : e.addresses.filter (fun a => e.namesAlong a == []) = [] := by
    rw [List.filter_eq_nil_iff]
    intro a ha
    simpa using namesAlong_ne_nil ha
  rw [placesNamed, places_eq, List.filter_cons_of_pos (by simp [namesAlong]), hnone]

theorem placesNamed_of_ne_nil (e : Element) {steps : List String} (h : steps ≠ []) :
    e.placesNamed steps = e.addresses.filter fun a => e.namesAlong a == steps := by
  rw [placesNamed, places_eq, List.filter_cons_of_neg (by simpa [namesAlong] using h.symm)]

theorem map_at?_filter_placesFrom (e : Element) (step : String) (steps : List String)
    (before cs : List Element) (h : e.children = before ++ cs) :
    ((placesFrom before.length cs).filter fun a => e.namesAlong a == step :: steps).map e.at? =
      (cs.filter fun c => c.name == step).flatMap fun c => (c.placesNamed steps).map c.at? := by
  induction cs generalizing before with
  | nil => rfl
  | cons c cs ih =>
    have hc : e.children[before.length]? = some c := by simp [h]
    have hrest := ih (before ++ [c]) (by simp [h])
    rw [List.length_append, List.length_singleton] at hrest
    have hnames (a : List Nat) : (e.namesAlong (before.length :: a) == step :: steps) =
        (c.name == step && c.namesAlong a == steps) := by
      rw [namesAlong_cons hc, List.cons_beq_cons]
    have hat (a : List Nat) : e.at? (before.length :: a) = c.at? a := by
      rw [at?, hc, Option.bind_some]
    rw [placesFrom, List.filter_append, List.map_append, hrest, List.filter_map, List.map_map]
    simp only [Function.comp_def, hnames, hat]
    by_cases hname : c.name = step
    · simp [hname, placesNamed]
    · simp [hname]

theorem select_eq_flatMap (es : List Element) (steps : List String) :
    select es steps = es.flatMap fun e => select [e] steps := by
  induction steps generalizing es with
  | nil => simp
  | cons step steps ih =>
    have hlevel (e : Element) : select [e] (step :: steps) =
        (e.childrenNamed step).flatMap fun c => select [c] steps := by
      rw [select, List.flatMap_singleton, ih]
    rw [select, ih, List.flatMap_assoc]
    exact congrArg (es.flatMap ·) (funext fun e => (hlevel e).symm)

theorem map_some_select (e : Element) (steps : List String) :
    (select [e] steps).map some = (e.placesNamed steps).map e.at? := by
  induction steps generalizing e with
  | nil => simp [placesNamed_nil, at?]
  | cons step steps ih =>
    have hlevel := map_at?_filter_placesFrom e step steps [] e.children rfl
    rw [placesNamed_of_ne_nil e (List.cons_ne_nil step steps), addresses]
    refine Eq.trans ?_ hlevel.symm
    rw [select, List.flatMap_singleton, select_eq_flatMap, List.map_flatMap, childrenNamed]
    exact congrArg (List.flatMap · _) (funext ih)

theorem pathSteps_ne_nil (path : String) : pathSteps path ≠ [] := by
  simpa [pathSteps] using Text.splitOn_ne_nil '/' path.toList

theorem pathSteps_append_slash (p q : String) :
    pathSteps (p ++ "/" ++ q) = pathSteps p ++ pathSteps q := by
  have hlist : (p ++ "/" ++ q).toList = p.toList ++ '/' :: q.toList := by simp
  rw [pathSteps, hlist, Text.splitOn_append_cons, List.map_append]
  rfl

theorem not_mem_of_mem_pathSteps {path step : String} (h : step ∈ pathSteps path) :
    '/' ∉ step.toList := by
  obtain ⟨piece, hpiece, rfl⟩ := List.mem_map.mp h
  rw [String.toList_ofList]
  exact Text.not_mem_of_mem_splitOn hpiece

theorem joinWith_pathSteps (path : String) : Text.joinWith "/" (pathSteps path) = path := by
  exact (Text.joinWith_splitOn '/' path.toList).trans String.ofList_toList

/-- A query finds, in document order and each once, the descendants to which the names of the path
lead. The names are what stands between the slashes. A path with another one behind it asks the
second one of whatever the first one finds. -/
theorem findAll_by_names (e : Element) (path : String) :
    (e.findAll path).map some =
        (e.addresses.filter fun a => e.namesAlong a == pathSteps path).map e.at? ∧
      e.addresses.map e.at? = e.descendants.map some ∧
      e.addresses.Nodup ∧
      (e.findAll path).Sublist e.descendants ∧
      (pathSteps path ≠ [] ∧ Text.joinWith "/" (pathSteps path) = path ∧
        ∀ step ∈ pathSteps path, '/' ∉ step.toList) ∧
      ∀ rest, e.findAll (path ++ "/" ++ rest) = (e.findAll path).flatMap (·.findAll rest) := by
  have hfound : (e.findAll path).map some =
      (e.addresses.filter fun a => e.namesAlong a == pathSteps path).map e.at? := by
    rw [findAll, map_some_select, placesNamed_of_ne_nil e (pathSteps_ne_nil path)]
  refine ⟨hfound, map_at?_addresses e, (pairwise_placesFrom 0 e.children).imp ?_, ?_,
    ⟨pathSteps_ne_nil path, joinWith_pathSteps path, fun _ => not_mem_of_mem_pathSteps⟩, ?_⟩
  · intro a b hlt heq
    exact List.lt_irrefl a (heq ▸ hlt)
  · have hsub := (List.filter_sublist (p := fun a => e.namesAlong a == pathSteps path)
      (l := e.addresses)).map e.at?
    rw [← hfound, map_at?_addresses] at hsub
    simpa using hsub.filterMap id
  · intro rest
    rw [findAll, pathSteps_append_slash, select_append, select_eq_flatMap]
    rfl

end SymbolDocs.Xml.Element
