import SymbolDocs.Proofs.Description.WellFormed
import SymbolDocs.Symbol.Visibility
/-!
Hiding nodes of well-formed descriptions. What is left is well-formed, and hiding twice is hiding
once what either of the two hides: texts and lists that the first pass has joined are hidden by the
second pass just as their parts would have been.
-/

namespace SymbolDocs

def Visibility.both (p q : Visibility) : Visibility where
  description := p.description && q.description
  initializer := p.initializer && q.initializer
  preconditions := p.preconditions && q.preconditions
  postconditions := p.postconditions && q.postconditions
  returns := p.returns && q.returns

namespace Description

theorem isHidden_both (p q : Visibility) (d : Description) :
    isHidden (p.both q) d = (isHidden p d || isHidden q d) := by
  fun_cases isHidden p d <;> simp_all [isHidden, Visibility.both]

theorem isHidden_list (v : Visibility) (title : Option String) (xs ys : List Description) :
    isHidden v (list title xs) = isHidden v (list title ys) := by
  cases title <;> rfl

theorem eq_of_isEmptyParagraph {d : Description} (h : d.isEmptyParagraph = true) :
    d = paragraph [] := by
  cases d with
  | paragraph ds =>
    cases ds with
    | nil => rfl
    | cons d ds => cases h
  | _ => cases h

theorem pruneEach_eq_filterMap (v : Visibility) (ds : List Description) :
    pruneEach v ds = ds.filterMap (prune v) := by
  induction ds with
  | nil => rw [pruneEach, List.filterMap_nil]
  | cons d ds ih => cases h : prune v d <;> simp [pruneEach, ih, h]

theorem pruneEach_append (v : Visibility) (xs ys : List Description) :
    pruneEach v (xs ++ ys) = pruneEach v xs ++ pruneEach v ys := by
  simp only [pruneEach_eq_filterMap, List.filterMap_append]

theorem pruneEach_singleton (v : Visibility) (d : Description) :
    pruneEach v [d] = (prune v d).toList := by
  rw [pruneEach, pruneEach, List.append_nil]

theorem forall_mem_pruneEach {v : Visibility} {ds : List Description} {P : Description → Prop}
    (h : ∀ d ∈ ds, ∀ e, prune v d = some e → P e) : ∀ e ∈ pruneEach v ds, P e := by
  intro e he
  rw [pruneEach_eq_filterMap] at he
  obtain ⟨d, hd, hde⟩ := List.mem_filterMap.mp he
  exact h d hd e hde

theorem kind_of_prune {v : Visibility} {d e : Description} (h : prune v d = some e) :
    e.isParagraph = d.isParagraph ∧ e.isParameter = d.isParameter := by
  cases d with
  | list title ds =>
    rw [prune] at h
    split at h
    · cases h
    · exact Option.some.inj h ▸ ⟨rfl, rfl⟩
  | returns title body =>
    rw [prune] at h
    split at h
    · cases h
    · exact Option.some.inj h ▸ ⟨rfl, rfl⟩
  | _ =>
    rw [prune] at h
    exact Option.some.inj h ▸ ⟨rfl, rfl⟩

theorem isShaped_pruneEach {title : Option String} {ds : List Description} (v : Visibility)
    (h : IsShaped (list title ds)) : IsShaped (list title (pruneEach v ds)) := by
  rcases h with ⟨ht, h⟩ | ⟨ht, h⟩
  · exact .inl ⟨ht, forall_mem_pruneEach fun d hd e he => (kind_of_prune he).1.trans (h d hd)⟩
  · exact .inr ⟨ht, forall_mem_pruneEach fun d hd e he => (kind_of_prune he).2.trans (h d hd)⟩

theorem compose_of_isShaped {title : Option String} {ds : List Description}
    (h : IsShaped (list title ds)) (hds : ∀ d ∈ ds, d.Sound) : compose ds = ds :=
  compose_eq_self (isChain_of_isShaped h) fun d hd => tidy_of_sound (hds d hd)

theorem wellFormed_pruneBody {v : Visibility} {body : Description} (hb : body.WellFormed)
    (h : ∀ d, prune v body = some d → d.Sound) :
    WellFormed ((prune v body).getD (paragraph [])) := by
  cases hp : prune v body with
  | none => simp [wellFormed_paragraph]
  | some d => exact ⟨(kind_of_prune hp).1.trans hb.isParagraph, h d hp⟩

theorem sound_prune (v : Visibility) (d : Description) (h : d.Sound) :
    ∀ e, prune v d = some e → e.Sound := by
  induction d using Description.induction with
  | text s =>
    intro e he
    rw [prune] at he
    exact Option.some.inj he ▸ h
  | paragraph ds ih =>
    intro e he
    rw [prune] at he
    obtain rfl := Option.some.inj he
    apply WellFormed.sound
    apply wellFormed_compose
    apply forall_mem_pruneEach
    intro d hd e he
    obtain ⟨hsound, hparam⟩ := ((sound_paragraph ds).mp h).2 d hd
    exact ⟨ih d hd hsound e he, (kind_of_prune he).2.trans hparam⟩
  | admonition style title body ih =>
    intro e he
    rw [prune] at he
    obtain rfl := Option.some.inj he
    rw [sound_admonition] at *
    exact wellFormed_pruneBody h (ih h.sound)
  | parameter name type direction body ih =>
    intro e he
    rw [prune] at he
    obtain rfl := Option.some.inj he
    rw [sound_parameter] at *
    exact wellFormed_pruneBody h (ih h.sound)
  | list title ds ih =>
    intro e he
    obtain ⟨hshape, hds⟩ := (sound_list title ds).mp h
    have hsound := forall_mem_pruneEach fun d hd => ih d hd (hds d hd)
    rw [prune, compose_of_isShaped (isShaped_pruneEach v hshape) hsound] at he
    split at he
    · cases he
    · rw [← Option.some.inj he, sound_list]
      exact ⟨isShaped_pruneEach v hshape, hsound⟩
  | returns title body ih =>
    intro e he
    rw [prune] at he
    split at he
    · cases he
    · rw [← Option.some.inj he]
      rw [sound_returns] at *
      exact wellFormed_pruneBody h (ih h.sound)

theorem prune_of_fuse {v : Visibility} {d e f : Description} (hd : d.Sound) (he : e.Sound)
    (h : fuse? d e = some f) :
    (prune v d = none ∧ prune v e = none ∧ prune v f = none) ∨
      ∃ d' e' f', prune v d = some d' ∧ prune v e = some e' ∧ prune v f = some f' ∧
        fuse? d' e' = some f' := by
  have hf := sound_of_fuse hd he h
  rcases fuse?_eq_some h with ⟨s, t, rfl, rfl, rfl⟩ | ⟨title, xs, ys, rfl, rfl, rfl⟩
  · exact .inr ⟨_, _, _, by rw [prune], by rw [prune], by rw [prune], h⟩
  · have hcompose (zs : List Description) (hz : Sound (list (some title) zs)) :
        compose (pruneEach v zs) = pruneEach v zs := by
      obtain ⟨hshape, hzs⟩ := (sound_list _ zs).mp hz
      exact compose_of_isShaped (isShaped_pruneEach v hshape)
        (forall_mem_pruneEach fun d hd => sound_prune v d (hzs d hd))
    simp only [prune, isHidden_list v _ xs (xs ++ ys), isHidden_list v _ ys (xs ++ ys),
      hcompose xs hd, hcompose ys he, hcompose _ hf]
    split
    · exact .inl ⟨rfl, rfl, rfl⟩
    · exact .inr ⟨_, _, _, rfl, rfl, rfl, by simp [fuse?, pruneEach_append]⟩

/-- Whether one more sibling has been joined to the last one makes no difference to what is
visible. -/
theorem compose_pruneEach_merge {v : Visibility} {ds : List Description} {d : Description}
    (hds : ∀ e ∈ ds, e.Sound) (hd : d.Sound) :
    compose (pruneEach v (merge ds d)) = compose (pruneEach v (ds ++ [d])) := by
  rw [merge_eq_push (tidy_of_sound hd)]
  rcases push_cases ds d with ⟨-, hp⟩ | ⟨init, last, f, rfl, hf, hp⟩
  · rw [hp]
  · have hlast := hds last (List.mem_append_right init List.mem_cons_self)
    have hfused := sound_of_fuse hlast hd hf
    rw [hp]
    simp only [pruneEach_append, pruneEach_singleton, compose_append]
    rcases prune_of_fuse (v := v) hlast hd hf with ⟨h₁, h₂, h₃⟩ | ⟨a, b, c, h₁, h₂, h₃, hc⟩
    · simp only [h₁, h₂, h₃, Option.toList_none, List.foldl_nil]
    · simp only [h₁, h₂, h₃, Option.toList_some, List.foldl_cons, List.foldl_nil]
      rw [merge_eq_push (tidy_of_sound (sound_prune v last hlast a h₁)),
        merge_eq_push (tidy_of_sound (sound_prune v d hd b h₂)),
        merge_eq_push (tidy_of_sound (sound_prune v f hfused c h₃)), push_push_of_fuse hc]

theorem compose_pruneEach_compose {v : Visibility} {ds : List Description}
    (h : ∀ d ∈ ds, d.Sound) : compose (pruneEach v (compose ds)) = compose (pruneEach v ds) := by
  induction ds using List.reverseRecOn with
  | nil => rfl
  | append_singleton ds d ih =>
    obtain ⟨hds, hd⟩ := List.forall_mem_append.mp h
    rw [compose_concat, compose_pruneEach_merge (sound_compose hds) (hd d List.mem_cons_self),
      pruneEach_append, pruneEach_append, compose_append, compose_append, ih hds]

theorem pruneEach_pruneEach {p q r : Visibility} {ds : List Description}
    (h : ∀ d ∈ ds, (prune p d).bind (prune q) = prune r d) :
    pruneEach q (pruneEach p ds) = pruneEach r ds := by
  simp only [pruneEach_eq_filterMap, List.filterMap_filterMap]
  exact List.filterMap_congr h

theorem pruneBody_pruneBody {p q r : Visibility} {body : Description}
    (h : (prune p body).bind (prune q) = prune r body) :
    (prune q ((prune p body).getD (paragraph []))).getD (paragraph []) =
      (prune r body).getD (paragraph []) := by
  rw [← h]
  cases prune p body with
  | none => simp [prune, pruneEach, compose]
  | some d => rfl

theorem prune_prune (p q : Visibility) (d : Description) (h : d.Sound) :
    (prune p d).bind (prune q) = prune (p.both q) d := by
  induction d using Description.induction with
  | text s => simp only [prune, Option.bind_some]
  | paragraph ds ih =>
    have hds := fun d hd => (((sound_paragraph ds).mp h).2 d hd).1
    have hp := forall_mem_pruneEach fun d hd => sound_prune p d (hds d hd)
    simp only [prune, Option.bind_some]
    rw [compose_pruneEach_compose hp, pruneEach_pruneEach fun d hd => ih d hd (hds d hd)]
  | admonition style title body ih =>
    have hb := ih ((sound_admonition _ _ body).mp h).sound
    simp only [prune, Option.bind_some, pruneBody_pruneBody hb]
  | parameter name type direction body ih =>
    have hb := ih ((sound_parameter _ _ _ body).mp h).sound
    simp only [prune, Option.bind_some, pruneBody_pruneBody hb]
  | list title ds ih =>
    have hds := ((sound_list title ds).mp h).2
    have hp := forall_mem_pruneEach fun d hd => sound_prune p d (hds d hd)
    simp only [prune, isHidden_both]
    cases hhp : isHidden p (list title ds) with
    | true => simp
    | false =>
      simp only [Bool.false_eq_true, ↓reduceIte, Option.bind_some, prune, Bool.false_or]
      rw [compose_pruneEach_compose hp, pruneEach_pruneEach fun d hd => ih d hd (hds d hd),
        isHidden_list q title _ ds]
  | returns title body ih =>
    have hb := ih ((sound_returns _ body).mp h).sound
    simp only [prune, isHidden_both]
    cases hhp : isHidden p (returns title body) with
    | true => simp
    | false =>
      simp only [Bool.false_eq_true, ↓reduceIte, Option.bind_some, prune, Bool.false_or,
        pruneBody_pruneBody hb]
      rfl

end Description

end SymbolDocs
