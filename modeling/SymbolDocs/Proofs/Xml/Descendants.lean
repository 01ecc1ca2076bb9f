import Mathlib.Data.List.Induction
import SymbolDocs.Proofs.Xml.Size

namespace SymbolDocs.Xml.Element

theorem preorderAll_append (xs ys : List Element) :
    preorderAll (xs ++ ys) = preorderAll xs ++ preorderAll ys := by
  induction xs with
  | nil => rfl
  | cons e es ih => rw [List.cons_append, preorderAll, preorderAll, ih, List.append_assoc]

theorem preorderAll_eq_flatMap (es : List Element) : preorderAll es = es.flatMap preorder := by
  induction es with
  | nil => rfl
  | cons e es ih => rw [preorderAll, ih, List.flatMap_cons]

theorem preorder_eq (e : Element) : e.preorder = e :: preorderAll e.children := by
  obtain ⟨name, attributes, text, children, tail⟩ := e
  rw [preorder, Element.children]

theorem size_eq (e : Element) : e.size = sizeAll e.children + 1 := by
  obtain ⟨name, attributes, text, children, tail⟩ := e
  rw [size, Element.children]

theorem traverse_eq_preorderAll {n : Nat} {stack : List Element} (h : sizeAll stack ≤ n) :
    traverse n stack = preorderAll stack := by
  induction n generalizing stack with
  | zero =>
    cases stack with
    | nil => rfl
    | cons e stack =>
      have hpos := e.size_pos
      rw [sizeAll] at h
      omega
  | succ n ih =>
    cases stack with
    | nil => rfl
    | cons e stack =>
      have hrest : sizeAll (e.children ++ stack) ≤ n := by
        rw [sizeAll, size_eq] at h
        rw [sizeAll_append]
        omega
      rw [traverse, ih hrest, preorderAll_append, preorderAll, preorder_eq, List.cons_append]

theorem descendants_eq_preorderAll (e : Element) : e.descendants = preorderAll e.children :=
  traverse_eq_preorderAll (Nat.le_refl _)

theorem mem_descendants_iff {e t : Element} :
    t ∈ e.descendants ↔ ∃ c ∈ e.children, t = c ∨ t ∈ c.descendants := by
  simp only [descendants_eq_preorderAll, preorderAll_eq_flatMap e.children, List.mem_flatMap,
    preorder_eq, List.mem_cons]

theorem descendants_eq_flatMap (e : Element) :
    e.descendants = e.children.flatMap fun c => c :: c.descendants := by
  simp only [descendants_eq_preorderAll, preorderAll_eq_flatMap e.children]
  exact congrArg (e.children.flatMap ·) (funext preorder_eq)

theorem size_lt_of_mem_descendants {e t : Element} (h : t ∈ e.descendants) : t.size < e.size := by
  induction hn : e.size using Nat.strongRecOn generalizing e with
  | ind n ih =>
    obtain ⟨c, hc, ht⟩ := mem_descendants_iff.mp h
    have hlt := size_lt_of_mem_children hc
    rcases ht with rfl | ht
    · omega
    · have := ih c.size (by omega) ht rfl
      omega

/-- What stands at an address: the number of a child, then of a child of that child, and so on. -/
def at? : Element → List Nat → Option Element
  | e, [] => some e
  | e, i :: a => e.children[i]?.bind fun c => c.at? a

mutual

def places : Element → List (List Nat)
  | mk _ _ _ children _ => [] :: placesFrom 0 children

def placesFrom (i : Nat) : List Element → List (List Nat)
  | [] => []
  | c :: cs => (places c).map (i :: ·) ++ placesFrom (i + 1) cs

end

def addresses (e : Element) : List (List Nat) :=
  placesFrom 0 e.children

theorem places_eq (e : Element) : e.places = [] :: e.addresses := by
  obtain ⟨name, attributes, text, children, tail⟩ := e
  rw [places]
  rfl

theorem mem_placesFrom {i : Nat} {cs : List Element} {a : List Nat} :
    a ∈ placesFrom i cs ↔ ∃ j c b, cs[j]? = some c ∧ b ∈ c.places ∧ a = (i + j) :: b := by
  induction cs generalizing i with
  | nil => simp [placesFrom]
  | cons c cs ih =>
    rw [placesFrom, List.mem_append, List.mem_map, ih]
    constructor
    · rintro (⟨b, hb, rfl⟩ | ⟨j, d, b, hd, hb, rfl⟩)
      · exact ⟨0, c, b, rfl, hb, rfl⟩
      · exact ⟨j + 1, d, b, hd, hb, by rw [Nat.add_right_comm, Nat.add_assoc]⟩
    · rintro ⟨j, d, b, hd, hb, rfl⟩
      cases j with
      | zero =>
        obtain rfl := Option.some.inj hd
        exact .inl ⟨b, hb, rfl⟩
      | succ j => exact .inr ⟨j, d, b, hd, hb, by rw [Nat.add_right_comm, Nat.add_assoc]⟩

theorem mem_places_iff {e : Element} {a : List Nat} : a ∈ e.places ↔ (e.at? a).isSome := by
  induction a generalizing e with
  | nil => simp [places_eq, at?]
  | cons i a ih =>
    rw [places_eq, List.mem_cons, addresses, mem_placesFrom, at?]
    constructor
    · rintro (h | ⟨j, c, b, hc, hb, h⟩)
      · cases h
      · obtain ⟨rfl, rfl⟩ := List.cons.inj h
        rw [Nat.zero_add, hc, Option.bind_some]
        exact ih.mp hb
    · intro h
      obtain ⟨c, hc⟩ := Option.isSome_iff_exists.mp (Option.isSome_of_isSome_bind h)
      rw [hc, Option.bind_some] at h
      exact .inr ⟨i, c, a, hc, ih.mpr h, by rw [Nat.zero_add]⟩

theorem ne_nil_of_mem_placesFrom {i : Nat} {cs : List Element} {a : List Nat}
    (h : a ∈ placesFrom i cs) : a ≠ [] := by
  obtain ⟨j, c, b, -, -, rfl⟩ := mem_placesFrom.mp h
  exact List.cons_ne_nil _ b

theorem mem_addresses_iff {e : Element} {a : List Nat} :
    a ∈ e.addresses ↔ a ≠ [] ∧ (e.at? a).isSome := by
  rw [← mem_places_iff, places_eq, List.mem_cons]
  constructor
  · exact fun h => ⟨ne_nil_of_mem_placesFrom h, .inr h⟩
  · exact fun ⟨hne, h⟩ => h.resolve_left hne

mutual

theorem pairwise_places : ∀ e : Element, e.places.Pairwise (· < ·)
  | mk _ _ _ children _ => by
    rw [places, List.pairwise_cons]
    refine ⟨?_, pairwise_placesFrom 0 children⟩
    intro a ha
    obtain ⟨i, b, rfl⟩ := List.exists_cons_of_ne_nil (ne_nil_of_mem_placesFrom ha)
    exact .nil

theorem pairwise_placesFrom : ∀ (i : Nat) (cs : List Element), (placesFrom i cs).Pairwise (· < ·)
  | i, [] => List.Pairwise.nil
  | i, c :: cs => by
    have hfirst : ((places c).map (i :: ·)).Pairwise (· < ·) :=
      (pairwise_places c).map _ fun _ _ => .cons
    rw [placesFrom, List.pairwise_append]
    refine ⟨hfirst, pairwise_placesFrom (i + 1) cs, ?_⟩
    intro a ha b hb
    obtain ⟨a', -, rfl⟩ := List.mem_map.mp ha
    obtain ⟨j, d, b', -, -, rfl⟩ := mem_placesFrom.mp hb
    exact .rel (by omega)

end

mutual

theorem map_at?_places : ∀ e : Element, e.places.map e.at? = e.preorder.map some
  | mk name attributes text children tail => by
    rw [places, preorder, List.map_cons, List.map_cons, at?]
    exact congrArg _ (map_at?_placesFrom (mk name attributes text children tail) [] children rfl)

theorem map_at?_placesFrom : ∀ (e : Element) (before cs : List Element),
    e.children = before ++ cs →
      (placesFrom before.length cs).map e.at? = (preorderAll cs).map some
  | _, _, [], _ => rfl
  | e, before, c :: cs, h => by
    have hc : e.children[before.length]? = some c := by simp [h]
    have hfirst : ((places c).map (before.length :: ·)).map e.at? = (places c).map c.at? := by
      rw [List.map_map]
      apply List.map_congr_left
      intro a _
      change e.children[before.length]?.bind _ = _
      rw [hc, Option.bind_some]
    have hrest := map_at?_placesFrom e (before ++ [c]) cs (by simp [h])
    rw [List.length_append, List.length_singleton] at hrest
    rw [placesFrom, List.map_append, hfirst, map_at?_places c, hrest, preorderAll, List.map_append]

end

theorem map_at?_addresses (e : Element) : e.addresses.map e.at? = e.descendants.map some := by
  rw [descendants_eq_preorderAll]
  exact map_at?_placesFrom e [] e.children rfl

def next? (stack : List Element) : Option (Element × List Element) :=
  stack.getLast?.map fun e => (e, stack.dropLast ++ e.children.reverse)

inductive RunsOut : Nat → List Element → List Element → Prop
  | stop {stack : List Element} : next? stack = none → RunsOut 0 stack []
  | step {n : Nat} {stack rest : List Element} {e : Element} {es : List Element} :
    next? stack = some (e, rest) → RunsOut n rest es → RunsOut (n + 1) stack (e :: es)

theorem next?_concat (stack : List Element) (e : Element) :
    next? (stack ++ [e]) = some (e, stack ++ e.children.reverse) := by
  simp [next?]

theorem RunsOut.eq_preorderAll {n : Nat} {stack es : List Element} (h : RunsOut n stack es) :
    es = preorderAll stack.reverse ∧ n = es.length := by
  induction h with
  | @stop stack hstop =>
    obtain rfl : stack = [] := by simpa [next?] using hstop
    exact ⟨rfl, rfl⟩
  | @step n stack rest e es hstep _ ih =>
    obtain ⟨rfl, rfl⟩ := ih
    cases stack using List.reverseRecOn with
    | nil => simp [next?] at hstep
    | append_singleton stack d =>
      obtain ⟨rfl, rfl⟩ := Prod.mk.inj (Option.some.inj ((next?_concat stack d).symm.trans hstep))
      refine ⟨?_, rfl⟩
      rw [List.reverse_append, List.reverse_reverse, List.reverse_append, preorderAll_append]
      exact (congrArg (· ++ _) (preorder_eq d)).symm

theorem runsOut_preorderAll (stack : List Element) :
    RunsOut (preorderAll stack.reverse).length stack (preorderAll stack.reverse) := by
  induction hn : sizeAll stack.reverse using Nat.strongRecOn generalizing stack with
  | ind n ih =>
    cases stack using List.reverseRecOn with
    | nil => exact .stop rfl
    | append_singleton stack d =>
      have hrest := ih (sizeAll (stack ++ d.children.reverse).reverse) (by
        rw [← hn, List.reverse_append, List.reverse_reverse, List.reverse_append, sizeAll_append,
          List.reverse_singleton, List.singleton_append, sizeAll, size_eq]
        omega) (stack ++ d.children.reverse) rfl
      rw [List.reverse_append, List.reverse_reverse] at hrest
      rw [List.reverse_append, List.reverse_singleton, List.singleton_append, preorderAll,
        preorder_eq, List.cons_append, ← preorderAll_append]
      exact .step (next?_concat stack d) hrest

/-- The descendants are the children in order, each followed by its own descendants. They are what
stands at the addresses inside the element, each address once and in order, and never the element
itself; taking one at a time from the stack gives them in as many steps. -/
theorem descendants_in_order (e : Element) :
    e.descendants = e.children.flatMap (fun c => c :: c.descendants) ∧
      e.addresses.map e.at? = e.descendants.map some ∧
      e.addresses.Pairwise (· < ·) ∧
      (∀ a, a ∈ e.addresses ↔ a ≠ [] ∧ (e.at? a).isSome) ∧
      e ∉ e.descendants ∧
      ∀ n es, RunsOut n e.children.reverse es ↔ n = e.addresses.length ∧ es = e.descendants := by
  refine ⟨descendants_eq_flatMap e, map_at?_addresses e, pairwise_placesFrom 0 e.children,
    fun a => mem_addresses_iff, fun h => Nat.lt_irrefl _ (size_lt_of_mem_descendants h), ?_⟩
  have hlength : e.addresses.length = e.descendants.length := by
    simpa using congrArg List.length (map_at?_addresses e)
  rw [hlength, descendants_eq_preorderAll]
  intro n es
  constructor
  · intro h
    obtain ⟨rfl, rfl⟩ := h.eq_preorderAll
    rw [List.reverse_reverse]
    exact ⟨rfl, rfl⟩
  · rintro ⟨rfl, rfl⟩
    simpa using runsOut_preorderAll e.children.reverse

end SymbolDocs.Xml.Element
