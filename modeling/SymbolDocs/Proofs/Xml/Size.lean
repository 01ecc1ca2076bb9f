import SymbolDocs.Xml.Element

namespace SymbolDocs.Xml.Element

theorem sizeAll_append (xs ys : List Element) :
    sizeAll (xs ++ ys) = sizeAll xs + sizeAll ys := by
  induction xs with
  | nil => exact (Nat.zero_add _).symm
  | cons e es ih => rw [List.cons_append, sizeAll, sizeAll, ih, Nat.add_assoc]

theorem size_le_sizeAll {e : Element} {es : List Element} (h : e ∈ es) : e.size ≤ sizeAll es := by
  induction es with
  | nil => cases h
  | cons d ds ih =>
    rw [sizeAll]
    rcases List.mem_cons.mp h with rfl | h
    · omega
    · have := ih h
      omega

theorem size_lt_of_mem_children {c e : Element} (h : c ∈ e.children) : c.size < e.size := by
  obtain ⟨name, attributes, text, children, tail⟩ := e
  have hle : c.size ≤ sizeAll children := size_le_sizeAll h
  rw [size]
  omega

theorem size_pos (e : Element) : 0 < e.size := by
  obtain ⟨name, attributes, text, children, tail⟩ := e
  rw [size]
  omega

theorem length_children_lt (e : Element) : e.children.length < e.size := by
  have hall (es : List Element) : es.length ≤ sizeAll es := by
    induction es with
    | nil => exact Nat.le_refl 0
    | cons e es ih =>
      have := e.size_pos
      rw [List.length_cons, sizeAll]
      omega
  obtain ⟨name, attributes, text, children, tail⟩ := e
  exact Nat.lt_succ_of_le (hall children)

theorem size_lt_of_mem_childrenNamed {c e : Element} {tag : String}
    (h : c ∈ e.childrenNamed tag) : c.size < e.size :=
  size_lt_of_mem_children (List.mem_filter.mp h).1

theorem size_le_of_mem_select {c : Element} {n : Nat} {steps : List String} {es : List Element}
    (hes : ∀ e ∈ es, e.size ≤ n) (h : c ∈ select es steps) : c.size ≤ n := by
  induction steps generalizing es with
  | nil => exact hes c (by simpa using h)
  | cons step steps ih =>
    rw [select] at h
    refine ih ?_ h
    intro d hd
    obtain ⟨e, he, hd⟩ := List.mem_flatMap.mp hd
    exact Nat.le_trans (Nat.le_of_lt (size_lt_of_mem_childrenNamed hd)) (hes e he)

theorem size_le_of_mem_findAll {c e : Element} {path : String} (h : c ∈ e.findAll path) :
    c.size ≤ e.size :=
  size_le_of_mem_select (by simp) h

end SymbolDocs.Xml.Element
