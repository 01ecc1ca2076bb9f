import SymbolDocs.Proofs.Description.Composition
import SymbolDocs.Proofs.Text.Cut

namespace SymbolDocs

namespace Text

/-- Two sequences that read the same with spaces between their texts, whatever stands around
them. -/
structure ReadAlike (xs ys : List String) : Prop where
  eq_nil_iff : xs = [] ↔ ys = []
  join : joinWith " " xs = joinWith " " ys

theorem ReadAlike.refl (xs : List String) : ReadAlike xs xs :=
  ⟨Iff.rfl, rfl⟩

theorem ReadAlike.trans {xs ys zs : List String} (h : ReadAlike xs ys) (h' : ReadAlike ys zs) :
    ReadAlike xs zs :=
  ⟨h.eq_nil_iff.trans h'.eq_nil_iff, h.join.trans h'.join⟩

theorem ReadAlike.append {xs ys xs' ys' : List String} (h : ReadAlike xs ys)
    (h' : ReadAlike xs' ys') : ReadAlike (xs ++ xs') (ys ++ ys') := by
  refine ⟨by rw [List.append_eq_nil_iff, List.append_eq_nil_iff, h.eq_nil_iff, h'.eq_nil_iff], ?_⟩
  by_cases hx : xs = []
  · rw [hx, h.eq_nil_iff.mp hx]
    exact h'.join
  · by_cases hx' : xs' = []
    · rw [hx', h'.eq_nil_iff.mp hx', List.append_nil, List.append_nil]
      exact h.join
    · rw [joinWith_append hx hx', h.join, h'.join,
        joinWith_append (h.eq_nil_iff.not.mp hx) (h'.eq_nil_iff.not.mp hx')]

def kept (ss : List String) : List String :=
  (ss.filter fun s => !isBlankText s).map trim

theorem kept_append (xs ys : List String) : kept (xs ++ ys) = kept xs ++ kept ys := by
  simp [kept]

end Text

namespace Description

open Text (ReadAlike kept)

theorem leavesAll_append (xs ys : List Description) :
    leavesAll (xs ++ ys) = leavesAll xs ++ leavesAll ys := by
  induction xs with
  | nil => rfl
  | cons d ds ih => rw [List.cons_append, leavesAll, ih, leavesAll, List.append_assoc]

theorem leavesAll_singleton (d : Description) : leavesAll [d] = d.leaves := by
  rw [leavesAll, leavesAll, List.append_nil]

theorem leaves_of_fuse {d e f : Description} (h : fuse? d e = some f) :
    ReadAlike f.leaves (d.leaves ++ e.leaves) := by
  rcases fuse?_eq_some h with ⟨s, t, rfl, rfl, rfl⟩ | ⟨title, xs, ys, rfl, rfl, rfl⟩
  · exact ⟨by simp [leaves], rfl⟩
  · simp only [leaves, leavesAll_append]
    exact .refl _

theorem leavesAll_push (ds : List Description) (next : Description) :
    ReadAlike (leavesAll (push ds next)) (leavesAll ds ++ next.leaves) := by
  rcases push_cases ds next with ⟨-, hp⟩ | ⟨init, last, fused, rfl, hf, hp⟩
  · rw [hp, leavesAll_append, leavesAll_singleton]
    exact .refl _
  · rw [hp, leavesAll_append, leavesAll_append, leavesAll_singleton, leavesAll_singleton,
      List.append_assoc]
    exact (ReadAlike.refl _).append (leaves_of_fuse hf)

theorem leavesAll_merge_text (ds : List Description) (s : String) :
    ReadAlike (leavesAll (merge ds (text s))) (leavesAll ds ++ kept [s]) := by
  cases hs : Text.isBlankText s with
  | true => simpa [merge, tidy, hs, kept] using ReadAlike.refl _
  | false => simpa [merge, tidy, hs, kept, leaves] using leavesAll_push ds (text (Text.trim s))

theorem leavesAll_merge_block (ds : List Description) {block : Description}
    (h : tidy block = some block) :
    ReadAlike (leavesAll (merge ds block)) (leavesAll ds ++ block.leaves) := by
  rw [merge_eq_push h]
  exact leavesAll_push ds block

end Description

end SymbolDocs
