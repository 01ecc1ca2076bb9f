import SymbolDocs.Description.Basic

namespace SymbolDocs.Description

def children : Description → List Description
  | text _ => []
  | paragraph contents => contents
  | admonition _ _ contents => [contents]
  | parameter _ _ _ description => [description]
  | list _ contents => contents
  | returns _ description => [description]

mutual

def nodes : Description → List Description
  | text contents => [text contents]
  | paragraph contents => paragraph contents :: nodesAll contents
  | admonition style title contents => admonition style title contents :: nodes contents
  | parameter name type direction description =>
    parameter name type direction description :: nodes description
  | list title contents => list title contents :: nodesAll contents
  | returns title description => returns title description :: nodes description

def nodesAll : List Description → List Description
  | [] => []
  | d :: ds => nodes d ++ nodesAll ds

end

theorem nodesAll_eq_flatMap (ds : List Description) : nodesAll ds = ds.flatMap nodes := by
  induction ds with
  | nil => rfl
  | cons d ds ih => rw [nodesAll, ih, List.flatMap_cons]

theorem nodes_eq (d : Description) : d.nodes = d :: d.children.flatMap nodes := by
  cases d <;> simp [nodes, children, nodesAll_eq_flatMap]

@[elab_as_elim]
theorem induction {P : Description → Prop} (text : ∀ s, P (text s))
    (paragraph : ∀ ds, (∀ d ∈ ds, P d) → P (paragraph ds))
    (admonition : ∀ style title body, P body → P (admonition style title body))
    (parameter : ∀ name type direction body, P body → P (parameter name type direction body))
    (list : ∀ title ds, (∀ d ∈ ds, P d) → P (list title ds))
    (returns : ∀ title body, P body → P (returns title body)) (d : Description) : P d := by
  apply @Description.rec P (fun ds => ∀ d ∈ ds, P d) text paragraph admonition parameter list returns
  · simp
  · intro d ds hd hds e he
    rcases List.mem_cons.mp he with rfl | he
    · exact hd
    · exact hds e he

def Everywhere (P : Description → Prop) (d : Description) : Prop :=
  ∀ n ∈ d.nodes, P n

instance (P : Description → Prop) [DecidablePred P] (d : Description) :
    Decidable (Everywhere P d) :=
  inferInstanceAs (Decidable (∀ n ∈ d.nodes, P n))

theorem everywhere_iff (P : Description → Prop) (d : Description) :
    Everywhere P d ↔ P d ∧ ∀ c ∈ d.children, Everywhere P c := by
  simp only [Everywhere, nodes_eq d, List.forall_mem_cons, List.forall_mem_flatMap]

end SymbolDocs.Description
