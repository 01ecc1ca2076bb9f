import SymbolDocs.Proofs.Description.PlainText
import SymbolDocs.Proofs.Text.Trim
/-!
The composed form of a sequence of siblings. Its entries are the runs of siblings that belong
together, each run as one node, and it is the same whether the siblings are composed at once or
piece by piece.
-/

namespace SymbolDocs.Description

theorem tidy_text_eq_self_iff (s : String) : tidy (text s) = some (text s) ↔ Text.IsTidy s := by
  cases hb : Text.isBlankText s <;> simp [tidy, Text.IsTidy, hb]

theorem tidy_of_tidy {d e : Description} (h : tidy d = some e) : tidy e = some e := by
  cases d with
  | text s =>
    cases hb : Text.isBlankText s with
    | true => simp [tidy, hb] at h
    | false =>
      obtain rfl : text (Text.trim s) = e := by simpa [tidy, hb] using h
      exact (tidy_text_eq_self_iff _).mpr (Text.IsTidy.of_trim hb)
  | _ => exact Option.some.inj h ▸ rfl

theorem tidy_of_fuse {d e f : Description} (hd : tidy d = some d) (he : tidy e = some e)
    (h : fuse? d e = some f) : tidy f = some f := by
  rcases fuse?_eq_some h with ⟨s, t, rfl, rfl, rfl⟩ | ⟨title, xs, ys, rfl, rfl, rfl⟩
  · rw [tidy_text_eq_self_iff] at *
    exact hd.append he
  · rfl

theorem tidy_of_mem_compose {xs : List Description} : ∀ d ∈ compose xs, tidy d = some d :=
  forall_mem_compose (fun _ _ _ => tidy_of_fuse) fun _ _ _ => tidy_of_tidy

theorem foldl_merge_merge {ds : List Description} (h : ∀ d ∈ ds, tidy d = some d)
    (zs : List Description) (e : Description) :
    (merge ds e).foldl merge zs = merge (ds.foldl merge zs) e := by
  cases htidy : tidy e with
  | none => simp only [merge, htidy]
  | some e' =>
    have hmerge (ws : List Description) : merge ws e = push ws e' := by rw [merge, htidy]
    rw [hmerge, hmerge]
    rcases push_cases ds e' with ⟨-, hp⟩ | ⟨init, last, fused, rfl, hf, hp⟩
    · rw [hp, List.foldl_append, List.foldl_cons, List.foldl_nil,
        merge_eq_push (tidy_of_tidy htidy)]
    · have hlast : tidy last = some last := h last (by simp)
      have hfused : tidy fused = some fused := tidy_of_fuse hlast (tidy_of_tidy htidy) hf
      rw [hp]
      simp only [List.foldl_append, List.foldl_cons, List.foldl_nil]
      rw [merge_eq_push hfused, merge_eq_push hlast, push_push_of_fuse hf]

theorem foldl_merge_compose (zs ys : List Description) :
    (compose ys).foldl merge zs = ys.foldl merge zs := by
  induction ys using List.reverseRecOn with
  | nil => rfl
  | append_singleton ys y ih =>
    rw [compose_concat, foldl_merge_merge tidy_of_mem_compose, ih, List.foldl_append,
      List.foldl_cons, List.foldl_nil]

theorem compose_compose (xs : List Description) : compose (compose xs) = compose xs :=
  foldl_merge_compose [] xs

def isFusible : Description → Bool
  | text _ => true
  | list (some _) _ => true
  | _ => false

@[simp] theorem isFusible_text (s : String) : isFusible (text s) = true := rfl

@[simp] theorem isFusible_titled (title : String) (xs : List Description) :
    isFusible (list (some title) xs) = true := rfl

/-- A run of siblings that belong together, and the one node that stands for them. -/
inductive Unites : List Description → Description → Prop
  | alone (d : Description) (h : d.isFusible = false) : Unites [d] d
  | texts (s : String) (ss : List String) :
      Unites ((s :: ss).map text) (text (Text.joinWith " " (s :: ss)))
  | lists (title : String) (xs : List Description) (xss : List (List Description)) :
      Unites ((xs :: xss).map (list (some title))) (list (some title) (xs :: xss).flatten)

theorem unites_singleton (d : Description) : Unites [d] d := by
  cases d with
  | text s => exact .texts s []
  | list title xs =>
    cases title with
    | none => exact .alone _ rfl
    | some title => simpa using Unites.lists title xs []
  | _ => exact .alone _ rfl

theorem Unites.concat {run : List Description} {d e f : Description} (h : Unites run d)
    (hf : fuse? d e = some f) : Unites (run ++ [e]) f := by
  rcases fuse?_eq_some hf with ⟨_, t, rfl, rfl, rfl⟩ | ⟨title, _, ys, rfl, rfl, rfl⟩
  · cases h with
    | alone _ h => cases h
    | texts s ss =>
      have hjoin : Text.joinWith " " ((s :: ss) ++ [t]) = Text.joinWith " " (s :: ss) ++ " " ++ t :=
        Text.joinWith_append (List.cons_ne_nil s ss) (List.cons_ne_nil t [])
      rw [← hjoin, ← List.map_singleton (f := text), ← List.map_append]
      exact .texts s (ss ++ [t])
  · cases h with
    | alone _ h => cases h
    | lists _ xs xss =>
      have hflatten : (xs :: xss).flatten ++ ys = (xs :: (xss ++ [ys])).flatten := by simp
      rw [hflatten, ← List.map_singleton (f := list (some title)), ← List.map_append]
      exact .lists title xs (xss ++ [ys])

theorem exists_of_forall₂_concat {α β : Type} {R : α → β → Prop} {xs : List α} {ys : List β} {y : β}
    (h : List.Forall₂ R xs (ys ++ [y])) :
    ∃ init x, xs = init ++ [x] ∧ List.Forall₂ R init ys ∧ R x y := by
  have hinit := List.forall₂_take_append xs ys [y] h
  have hlast := List.forall₂_drop_append xs ys [y] h
  obtain ⟨x, rest, hx, hrest, hdrop⟩ := List.forall₂_cons_right_iff.mp hlast
  obtain rfl := List.forall₂_nil_right_iff.mp hrest
  exact ⟨_, x, by rw [← hdrop, List.take_append_drop], hinit, hx⟩

theorem exists_runs_push {runs : List (List Description)} {ds : List Description}
    (h : List.Forall₂ Unites runs ds) (e : Description) :
    ∃ runs', runs'.flatten = runs.flatten ++ [e] ∧ List.Forall₂ Unites runs' (push ds e) := by
  rcases push_cases ds e with ⟨-, hp⟩ | ⟨init, last, fused, rfl, hf, hp⟩
  · refine ⟨runs ++ [[e]], by simp, ?_⟩
    rw [hp]
    exact List.rel_append h (.cons (unites_singleton e) .nil)
  · obtain ⟨before, run, rfl, hbefore, hrun⟩ := exists_of_forall₂_concat h
    refine ⟨before ++ [run ++ [e]], by simp, ?_⟩
    rw [hp]
    exact List.rel_append hbefore (.cons (hrun.concat hf) .nil)

theorem exists_runs (xs : List Description) : ∃ runs, runs.flatten = xs.filterMap tidy ∧
    List.Forall₂ Unites runs (compose xs) := by
  induction xs using List.reverseRecOn with
  | nil => exact ⟨[], rfl, .nil⟩
  | append_singleton xs x ih =>
    obtain ⟨runs, hflatten, hruns⟩ := ih
    rw [compose_concat, merge, List.filterMap_append, ← hflatten]
    cases htidy : tidy x with
    | none => exact ⟨runs, by simp [htidy], hruns⟩
    | some e =>
      obtain ⟨runs', hflatten', hruns'⟩ := exists_runs_push hruns e
      exact ⟨runs', by simp [htidy, hflatten'], hruns'⟩

theorem filter_of_unites {run : List Description} {d : Description} (h : Unites run d) :
    run.filter (fun e => !e.isFusible) = [d].filter fun e => !e.isFusible := by
  cases h with
  | alone d h => rfl
  | texts s ss => simp [List.filter_map, Function.comp_def]
  | lists title xs xss => simp [List.filter_map, Function.comp_def]

theorem filter_flatten_of_unites {runs : List (List Description)} {ds : List Description}
    (h : List.Forall₂ Unites runs ds) :
    runs.flatten.filter (fun e => !e.isFusible) = ds.filter fun e => !e.isFusible := by
  induction h with
  | nil => rfl
  | @cons run d runs ds hfirst hrest ih =>
    rw [List.flatten_cons, List.filter_append, filter_of_unites hfirst, ih, ← List.filter_append,
      List.singleton_append]

theorem filter_filterMap_tidy (xs : List Description) :
    (xs.filterMap tidy).filter (fun e => !e.isFusible) = xs.filter fun e => !e.isFusible := by
  induction xs with
  | nil => rfl
  | cons x xs ih =>
    cases x with
    | text s => cases hb : Text.isBlankText s <;> simp [tidy, hb, ih]
    | _ => simp [tidy, List.filter_cons, ih]

theorem compose_canonical (xs ys : List Description) :
    compose (xs ++ ys) = compose (compose xs ++ compose ys) ∧
      compose (compose xs) = compose xs ∧
      (compose xs).IsChain Apart ∧
      (∀ s, text s ∈ compose xs → Text.IsTidy s) ∧
      (∃ runs, runs.flatten = xs.filterMap tidy ∧ List.Forall₂ Unites runs (compose xs)) ∧
      (compose xs).filter (fun d => !d.isFusible) = xs.filter fun d => !d.isFusible := by
  obtain ⟨runs, hflatten, hruns⟩ := exists_runs xs
  refine ⟨?_, compose_compose xs, isChain_compose xs, ?_, ⟨runs, hflatten, hruns⟩, ?_⟩
  · rw [compose_append, compose_append, foldl_merge_compose, compose_compose]
  · intro s hs
    exact (tidy_text_eq_self_iff s).mp (tidy_of_mem_compose _ hs)
  · rw [← filter_flatten_of_unites hruns, hflatten, filter_filterMap_tidy]

-- The blank text lets its neighbours meet, and lists without a title stay apart.
example : compose [text " a\n", text " ", text "b", list none [], list none [text "c"]] =
    [text "a b", list none [], list none [text "c"]] := by rfl

end SymbolDocs.Description
