import SymbolDocs.Script.Glob
import Mathlib.Data.List.Basic

namespace SymbolDocs.Script.Glob

open Text (Octets)

inductive Fits : List Item → List Char → Prop
  | nil : Fits [] []
  | one {set : CharSet} {c : Char} {is : List Item} {cs : List Char} (admits : set.admits c = true)
      (rest : Fits is cs) : Fits (.one set :: is) (c :: cs)
  | star (skipped : List Char) {is : List Item} {cs : List Char} (rest : Fits is cs) :
      Fits (.star :: is) (skipped ++ cs)

theorem Fits.star_cons {is : List Item} {c : Char} {cs : List Char} (h : Fits (.star :: is) cs) :
    Fits (.star :: is) (c :: cs) := by
  cases h with
  | star skipped rest => exact .star (c :: skipped) rest

theorem fits_star_cons_iff {is : List Item} {c : Char} {cs : List Char} :
    Fits (.star :: is) (c :: cs) ↔ Fits is (c :: cs) ∨ Fits (.star :: is) cs := by
  constructor
  · generalize hd : c :: cs = ds
    intro h
    cases h with
    | star skipped rest =>
      cases skipped with
      | nil => exact .inl rest
      | cons d skipped =>
        obtain ⟨-, rfl⟩ := List.cons.inj hd
        exact .inr (.star skipped rest)
  · rintro (h | h)
    · exact .star [] h
    · exact h.star_cons

theorem fits_star_nil_iff {is : List Item} : Fits (.star :: is) [] ↔ Fits is [] := by
  constructor
  · generalize hd : ([] : List Char) = ds
    intro h
    cases h with
    | star skipped rest =>
      obtain ⟨rfl, rfl⟩ := List.append_eq_nil_iff.mp hd.symm
      exact rest
  · exact .star []

theorem fits_iff (is : List Item) (cs : List Char) : fits is cs = true ↔ Fits is cs := by
  fun_induction fits is cs with
  | case1 cs =>
    rw [List.isEmpty_iff]
    exact ⟨fun h => h ▸ .nil, fun h => by cases h; rfl⟩
  | case2 set is => exact ⟨nofun, nofun⟩
  | case3 set is c cs ih =>
    rw [Bool.and_eq_true, ih]
    exact ⟨fun h => .one h.1 h.2, fun h => by cases h with | one admits rest => exact ⟨admits, rest⟩⟩
  | case4 is cs here later =>
    rw [Bool.or_eq_true, here]
    cases cs with
    | nil => simp [fits_star_nil_iff]
    | cons c cs =>
      rw [fits_star_cons_iff]
      exact or_congr_right later

theorem fits_append_iff {is js : List Item} {cs : List Char} :
    Fits (is ++ js) cs ↔ ∃ a b, cs = a ++ b ∧ Fits is a ∧ Fits js b := by
  constructor
  · intro h
    induction is generalizing cs with
    | nil => exact ⟨[], cs, rfl, .nil, h⟩
    | cons i is ih =>
      cases h with
      | one admits rest =>
        obtain ⟨a, b, rfl, ha, hb⟩ := ih rest
        exact ⟨_ :: a, b, rfl, .one admits ha, hb⟩
      | star skipped rest =>
        obtain ⟨a, b, rfl, ha, hb⟩ := ih rest
        exact ⟨skipped ++ a, b, (List.append_assoc ..).symm, .star skipped ha, hb⟩
  · rintro ⟨a, b, rfl, ha, hb⟩
    induction ha with
    | nil => exact hb
    | one admits _ ih => exact .one admits ih
    | star skipped _ ih =>
      rw [List.append_assoc]
      exact .star skipped ih

theorem itemsFrom_literal (text : Octets) (fuel : Nat) (enough : text.length ≤ fuel) :
    itemsFrom fuel (text.map (⟨·, true⟩)) = text.map (.one <| .exactly ·) := by
  induction text generalizing fuel with
  | nil => cases fuel <;> rfl
  | cons c text ih =>
    cases fuel with
    | zero => simp at enough
    | succ fuel =>
      simp only [List.map_cons, itemsFrom, ↓reduceIte, List.cons.injEq, true_and]
      exact ih fuel (by simpa using enough)

theorem fits_literal_iff {text : Octets} {cs : List Char} :
    Fits (items (text.map (⟨·, true⟩))) cs ↔ cs = text := by
  rw [items, itemsFrom_literal text _ (by simp)]
  induction text generalizing cs with
  | nil =>
    constructor
    · intro h
      cases h
      rfl
    · rintro rfl
      exact .nil
  | cons c text ih =>
    constructor
    · intro h
      cases h with
      | one admits rest =>
        rw [ih.mp rest, beq_iff_eq.mp admits]
    · rintro rfl
      exact .one (beq_self_eq_true c) (ih.mpr rfl)

theorem mem_cuts_iff {text a b : List Char} : (a, b) ∈ cuts text ↔ text = a ++ b := by
  induction text generalizing a b with
  | nil => simp [cuts, eq_comm]
  | cons c text ih =>
    cases a with
    | nil => simp [cuts, eq_comm]
    | cons d a => simp [cuts, ih, eq_comm, and_comm]

theorem pairwise_cuts (text : List Char) :
    (cuts text).Pairwise fun p q => p.1.length < q.1.length ∧ q.2.length < p.2.length := by
  induction text with
  | nil => simp [cuts]
  | cons c text ih =>
    rw [cuts, List.pairwise_cons, List.pairwise_map]
    refine ⟨?_, ih.imp fun h => ⟨by simpa using h.1, h.2⟩⟩
    rintro _ h
    obtain ⟨⟨a, b⟩, hab, rfl⟩ := List.mem_map.mp h
    have length : b.length ≤ text.length := by
      rw [mem_cuts_iff.mp hab, List.length_append]
      exact Nat.le_add_left _ _
    exact ⟨Nat.succ_pos _, Nat.lt_succ_of_le length⟩

/-- A stretch that fits ends the text or begins it, and `left` is the rest. -/
structure Cut (pattern : List Item) (atEnd : Bool) (text removed left : List Char) : Prop where
  eq : text = if atEnd then left ++ removed else removed ++ left
  fits : Fits pattern removed

inductive Trimmed (pattern : List Item) (atEnd isLongest : Bool) (text : List Char) :
    List Char → Prop
  | cut {removed left : List Char} (cut : Cut pattern atEnd text removed left)
      (best : ∀ other rest, Cut pattern atEnd text other rest →
        if isLongest then other.length ≤ removed.length else removed.length ≤ other.length) :
      Trimmed pattern atEnd isLongest text left
  | whole (none : ∀ removed left, ¬ Cut pattern atEnd text removed left) :
      Trimmed pattern atEnd isLongest text text

theorem Cut.eq_of_length_eq {pattern : List Item} {atEnd : Bool} {text a b c d : List Char}
    (h : Cut pattern atEnd text a b) (h' : Cut pattern atEnd text c d)
    (same : a.length = c.length) : b = d := by
  have e := h.eq.symm.trans h'.eq
  cases atEnd with
  | false => exact (List.append_inj e same).2
  | true => exact (List.append_inj' e same).1

theorem Trimmed.unique {pattern : List Item} {atEnd isLongest : Bool} {text a b : List Char}
    (h : Trimmed pattern atEnd isLongest text a) (h' : Trimmed pattern atEnd isLongest text b) :
    a = b := by
  cases h with
  | cut cut best =>
    cases h' with
    | cut cut' best' =>
      refine cut.eq_of_length_eq cut' ?_
      have h := best _ _ cut'
      have h' := best' _ _ cut
      cases isLongest with
      | false => exact Nat.le_antisymm h h'
      | true => exact Nat.le_antisymm h' h
    | whole none => exact absurd cut (none _ _)
  | whole none =>
    cases h' with
    | cut cut' => exact absurd cut' (none _ _)
    | whole => rfl

theorem best_of_find? {α : Type} {R : α → α → Prop} {p : α → Bool} {l : List α} {x : α}
    (sorted : l.Pairwise R) (found : l.find? p = some x) {y : α} (mem : y ∈ l) (holds : p y = true) :
    y = x ∨ R x y := by
  obtain ⟨-, before, behind, rfl, none⟩ := List.find?_eq_some_iff_append.mp found
  rw [List.pairwise_append, List.pairwise_cons] at sorted
  rw [List.mem_append, List.mem_cons] at mem
  obtain h | rfl | h := mem
  · simpa [holds] using none y h
  · exact .inl rfl
  · exact .inr (sorted.2.1.1 y h)

def removed (atEnd : Bool) (way : List Char × List Char) : List Char :=
  if atEnd then way.2 else way.1

def left (atEnd : Bool) (way : List Char × List Char) : List Char :=
  if atEnd then way.1 else way.2

def ways (atEnd isLongest : Bool) (text : List Char) : List (List Char × List Char) :=
  if atEnd == isLongest then cuts text else (cuts text).reverse

theorem trim_eq (marks : List Mark) (atEnd isLongest : Bool) (text : Octets) :
    trim marks atEnd isLongest text =
      (((ways atEnd isLongest text).find? (fits (items marks) <| removed atEnd ·)).map
        (left atEnd)).getD text := by
  unfold trim
  dsimp only
  change _ = (((ways atEnd isLongest text).find? fun way =>
    fits (items marks) (if atEnd then way.2 else way.1)).map (left atEnd)).getD text
  unfold ways
  split
  · next a b found =>
    rw [found]
    rfl
  · next found =>
    rw [found]
    rfl

theorem mem_ways_iff {atEnd isLongest : Bool} {text : List Char} {way : List Char × List Char} :
    way ∈ ways atEnd isLongest text ↔
      text = if atEnd then left atEnd way ++ removed atEnd way
        else removed atEnd way ++ left atEnd way := by
  have h : way ∈ ways atEnd isLongest text ↔ way ∈ cuts text := by
    unfold ways
    split
    · rfl
    · exact List.mem_reverse
  rw [h, mem_cuts_iff]
  cases atEnd <;> rfl

theorem pairwise_ways (atEnd isLongest : Bool) (text : List Char) :
    (ways atEnd isLongest text).Pairwise fun p q =>
      if isLongest then (removed atEnd q).length ≤ (removed atEnd p).length
      else (removed atEnd p).length ≤ (removed atEnd q).length := by
  have h := pairwise_cuts text
  cases atEnd <;> cases isLongest
  · exact h.imp fun h => Nat.le_of_lt h.1
  · exact List.pairwise_reverse.mpr (h.imp fun h => Nat.le_of_lt h.1)
  · exact List.pairwise_reverse.mpr (h.imp fun h => Nat.le_of_lt h.2)
  · exact h.imp fun h => Nat.le_of_lt h.2

theorem exists_way {pattern : List Item} {atEnd : Bool} {text a b : List Char} (isLongest : Bool)
    (h : Cut pattern atEnd text a b) : ∃ way ∈ ways atEnd isLongest text,
      removed atEnd way = a ∧ left atEnd way = b ∧ fits pattern (removed atEnd way) = true := by
  have fits := (fits_iff pattern a).mpr h.fits
  cases atEnd with
  | false => exact ⟨(a, b), mem_ways_iff.mpr h.eq, rfl, rfl, fits⟩
  | true => exact ⟨(b, a), mem_ways_iff.mpr h.eq, rfl, rfl, fits⟩

theorem trimmed_trim (marks : List Mark) (atEnd isLongest : Bool) (text : Octets) :
    Trimmed (items marks) atEnd isLongest text (trim marks atEnd isLongest text) := by
  rw [trim_eq]
  cases found : (ways atEnd isLongest text).find? (fits (items marks) <| removed atEnd ·) with
  | none =>
    refine .whole fun a b h => ?_
    obtain ⟨way, mem, -, -, holds⟩ := exists_way isLongest h
    exact List.find?_eq_none.mp found way mem holds
  | some way =>
    have cut : Cut (items marks) atEnd text (removed atEnd way) (left atEnd way) :=
      ⟨mem_ways_iff.mp (List.mem_of_find?_eq_some found),
        (fits_iff _ _).mp (by simpa using List.find?_some found)⟩
    refine .cut cut fun a b h => ?_
    obtain ⟨other, mem, rfl, -, holds⟩ := exists_way isLongest h
    obtain rfl | best := best_of_find? (pairwise_ways atEnd isLongest text) found mem holds
    · simp
    · exact best

/-- No other stretch at that end of the text fits and is longer, or shorter, than what goes. -/
theorem trim_eq_iff {marks : List Mark} {atEnd isLongest : Bool} {text rest : Octets} :
    trim marks atEnd isLongest text = rest ↔ Trimmed (items marks) atEnd isLongest text rest :=
  ⟨fun h => h ▸ trimmed_trim marks atEnd isLongest text,
    fun h => (trimmed_trim marks atEnd isLongest text).unique h⟩

theorem inOrder_total (a b : Octets) : (inOrder a b || inOrder b a) = true := by
  fun_induction inOrder a b with
  | case1 b => simp
  | case2 a as => simp [inOrder]
  | case3 a as b bs ih =>
    rw [inOrder]
    obtain h | h | h := Nat.lt_trichotomy a.toNat b.toNat
    · simp [h]
    · obtain rfl := Char.toNat_inj.mp h
      simpa using ih
    · simp [h]

theorem inOrder_trans (a b c : Octets) (h : inOrder a b = true) (h' : inOrder b c = true) :
    inOrder a c = true := by
  induction a generalizing b c with
  | nil => rfl
  | cons x a ih =>
    cases b with
    | nil => simp [inOrder] at h
    | cons y b =>
      cases c with
      | nil => simp [inOrder] at h'
      | cons z c =>
        simp only [inOrder, Bool.or_eq_true, decide_eq_true_eq, Bool.and_eq_true,
          beq_iff_eq] at h h' ⊢
        obtain h | ⟨rfl, h⟩ := h
        · obtain h' | ⟨rfl, -⟩ := h'
          · exact .inl (Nat.lt_trans h h')
          · exact .inl h
        · exact h'.imp_right fun ⟨same, h'⟩ => ⟨same, ih b c h h'⟩

theorem pairwise_paths (fs : FileSystem) (marks : List Mark) :
    (paths fs marks).Pairwise fun a b => inOrder a b = true :=
  List.pairwise_mergeSort inOrder_trans inOrder_total _

structure Shows (piece : List Mark) (name : Octets) : Prop where
  fits : Fits (items piece) name
  dot : name.head? = some '.' → piece.head?.map Mark.char = some '.'

def Names (piece : List Mark) (name : Octets) : Prop :=
  if isPattern piece then Shows piece name else name = piece.map Mark.char

theorem shows_of_mem_namesFor {fs : FileSystem} {dir name : Octets} {piece : List Mark}
    (h : name ∈ namesFor fs dir piece) : Shows piece name := by
  simp only [namesFor, List.mem_filter, Bool.and_eq_true, Bool.or_eq_true, bne_iff_ne, beq_iff_eq,
    fits_iff] at h
  exact ⟨h.2.1, h.2.2.resolve_left ∘ not_not_intro⟩

theorem names_of_mem_pathsFor {fs : FileSystem} {pieces : List (List Mark)} {start path : Octets}
    (h : path ∈ pathsFor fs pieces start) :
    ∃ names, List.Forall₂ Names pieces names ∧ path = start ++ ['/'].intercalate names := by
  induction pieces generalizing start with
  | nil => exact ⟨[], .nil, by simpa [pathsFor] using h⟩
  | cons piece pieces ih =>
    -- the last piece is the one behind which no slash is put
    cases pieces with
    | nil =>
      have ⟨name, named, eq⟩ : ∃ name, Names piece name ∧ path = start ++ name := by
        by_cases pattern : isPattern piece = true
        · simp only [pathsFor, pattern, ↓reduceIte, List.mem_map] at h
          obtain ⟨name, mem, rfl⟩ := h
          exact ⟨name, by simpa [Names, pattern] using shows_of_mem_namesFor mem, rfl⟩
        · simp only [pathsFor, pattern, Bool.false_eq_true, ↓reduceIte] at h
          split at h
          · exact ⟨piece.map Mark.char, by simp [Names, pattern], by simpa using h⟩
          · simp at h
      exact ⟨[name], .cons named .nil, by simpa [List.intercalate] using eq⟩
    | cons next pieces =>
      simp only [pathsFor, List.mem_flatMap] at h
      obtain ⟨name, mem, h⟩ := h
      have named : Names piece name := by
        by_cases pattern : isPattern piece = true
        · simp only [pattern, ↓reduceIte] at mem
          simpa [Names, pattern] using shows_of_mem_namesFor mem
        · simpa [Names, pattern] using mem
      split at h
      · obtain ⟨names, all, rfl⟩ := ih h
        refine ⟨name :: names, .cons named all, ?_⟩
        cases all with
        | cons _ _ => simp [List.intercalate]
      · simp at h

theorem names_of_mem_paths {fs : FileSystem} {marks : List Mark} {path : Octets}
    (h : path ∈ paths fs marks) :
    ∃ names, List.Forall₂ Names (pieces marks) names ∧ path = ['/'].intercalate names :=
  names_of_mem_pathsFor (List.mem_mergeSort.mp h)

end SymbolDocs.Script.Glob
