import SymbolDocs.Description.OfMarkup
import SymbolDocs.Proofs.Description.Composition
import SymbolDocs.Proofs.Description.Nodes
import SymbolDocs.Proofs.Text.Trim
/-!
Well-formed descriptions: what every description that has been read looks like, at every depth. The
normal form alone is not kept by composition, because two lists that become one keep their entries
as they are; the shape of lists, whose entries are never texts or lists, makes up for it.
-/

namespace SymbolDocs.Description

def isText : Description → Bool
  | text _ => true
  | _ => false

def isParagraph : Description → Bool
  | paragraph _ => true
  | _ => false

def isParameter : Description → Bool
  | parameter _ _ _ _ => true
  | _ => false

def IsNormal : Description → Prop
  | text s => Text.IsTidy s
  | paragraph ds => ds.IsChain Apart
  | list _ ds => ds.IsChain Apart
  | _ => True

instance : DecidablePred IsNormal
  | text s => inferInstanceAs (Decidable (Text.IsTidy s))
  | paragraph ds => inferInstanceAs (Decidable (ds.IsChain Apart))
  | list _ ds => inferInstanceAs (Decidable (ds.IsChain Apart))
  | admonition _ _ _ | parameter _ _ _ _ | returns _ _ => inferInstanceAs (Decidable True)

/-- Bodies are paragraphs. The entries of a list are paragraphs, or parameters where its title says
so; a paragraph holds anything but parameters. -/
def IsShaped : Description → Prop
  | text _ => True
  | paragraph ds => ∀ d ∈ ds, d.isParameter = false
  | admonition _ _ body => body.isParagraph = true
  | parameter _ _ _ body => body.isParagraph = true
  | returns _ body => body.isParagraph = true
  | list title ds =>
    ((title = none ∨ title = some preconditions ∨ title = some postconditions) ∧
        ∀ d ∈ ds, d.isParagraph = true) ∨
      title = some "Parameters" ∧ ∀ d ∈ ds, d.isParameter = true

instance : DecidablePred IsShaped
  | text _ => inferInstanceAs (Decidable True)
  | paragraph ds => inferInstanceAs (Decidable (∀ d ∈ ds, d.isParameter = false))
  | admonition _ _ body | parameter _ _ _ body | returns _ body =>
    inferInstanceAs (Decidable (body.isParagraph = true))
  | list _ _ => inferInstanceAs (Decidable (_ ∨ _))

def Sound : Description → Prop :=
  Everywhere fun n => n.IsNormal ∧ n.IsShaped

def IsEntry (d : Description) : Prop :=
  d.Sound ∧ d.isParameter = false

structure WellFormed (d : Description) : Prop where
  isParagraph : d.isParagraph = true
  sound : d.Sound

instance (d : Description) : Decidable d.Sound :=
  inferInstanceAs (Decidable (Everywhere _ d))

instance (d : Description) : Decidable d.WellFormed :=
  decidable_of_iff (d.isParagraph = true ∧ d.Sound)
    ⟨fun h => ⟨h.1, h.2⟩, fun h => ⟨h.isParagraph, h.sound⟩⟩

theorem sound_iff (d : Description) :
    d.Sound ↔ (d.IsNormal ∧ d.IsShaped) ∧ ∀ c ∈ d.children, c.Sound :=
  everywhere_iff _ d

theorem sound_text (s : String) : Sound (text s) ↔ Text.IsTidy s := by
  rw [sound_iff]
  simp [IsNormal, IsShaped, children]

theorem sound_paragraph (ds : List Description) :
    Sound (paragraph ds) ↔ ds.IsChain Apart ∧ ∀ d ∈ ds, d.IsEntry := by
  rw [sound_iff]
  constructor
  · rintro ⟨⟨hn, hp⟩, hs⟩
    exact ⟨hn, fun d hd => ⟨hs d hd, hp d hd⟩⟩
  · rintro ⟨hn, he⟩
    exact ⟨⟨hn, fun d hd => (he d hd).2⟩, fun d hd => (he d hd).1⟩

theorem sound_body (body : Description) :
    (body.isParagraph = true ∧ ∀ c ∈ [body], c.Sound) ↔ WellFormed body := by
  rw [List.forall_mem_singleton]
  exact ⟨fun h => ⟨h.1, h.2⟩, fun h => ⟨h.isParagraph, h.sound⟩⟩

theorem sound_admonition (style title : String) (body : Description) :
    Sound (admonition style title body) ↔ WellFormed body := by
  rw [sound_iff, ← sound_body]
  simp only [IsNormal, IsShaped, children, true_and]

theorem sound_parameter (name : String) (type : Option String) (direction : Option Direction)
    (body : Description) : Sound (parameter name type direction body) ↔ WellFormed body := by
  rw [sound_iff, ← sound_body]
  simp only [IsNormal, IsShaped, children, true_and]

theorem sound_returns (title : String) (body : Description) :
    Sound (returns title body) ↔ WellFormed body := by
  rw [sound_iff, ← sound_body]
  simp only [IsNormal, IsShaped, children, true_and]

theorem apart_of_isParagraph {d : Description} (h : d.isParagraph = true) (e : Description) :
    Apart d e := by
  cases d with
  | paragraph ds => rfl
  | _ => cases h

theorem apart_of_isParameter {d : Description} (h : d.isParameter = true) (e : Description) :
    Apart d e := by
  cases d with
  | parameter name type direction body => rfl
  | _ => cases h

theorem isChain_of_apart {ds : List Description} (h : ∀ d ∈ ds, ∀ e, Apart d e) :
    ds.IsChain Apart := by
  apply List.Pairwise.isChain
  apply List.pairwise_of_forall_mem_list
  intro d hd e _
  exact h d hd e

theorem isChain_of_isShaped {title : Option String} {ds : List Description}
    (h : IsShaped (list title ds)) : ds.IsChain Apart := by
  rcases h with ⟨-, hp⟩ | ⟨-, hp⟩
  · exact isChain_of_apart fun d hd => apart_of_isParagraph (hp d hd)
  · exact isChain_of_apart fun d hd => apart_of_isParameter (hp d hd)

theorem sound_list (title : Option String) (ds : List Description) :
    Sound (list title ds) ↔ IsShaped (list title ds) ∧ ∀ d ∈ ds, d.Sound := by
  rw [sound_iff]
  constructor
  · rintro ⟨⟨-, hs⟩, hds⟩
    exact ⟨hs, hds⟩
  · rintro ⟨hs, hds⟩
    exact ⟨⟨isChain_of_isShaped hs, hs⟩, hds⟩

theorem wellFormed_paragraph (ds : List Description) :
    WellFormed (paragraph ds) ↔ ds.IsChain Apart ∧ ∀ d ∈ ds, d.IsEntry := by
  rw [← sound_paragraph]
  exact ⟨fun h => h.sound, fun h => ⟨rfl, h⟩⟩

theorem WellFormed.isEntry {d : Description} (h : d.WellFormed) : d.IsEntry := by
  refine ⟨h.sound, ?_⟩
  have hp := h.isParagraph
  cases d with
  | paragraph ds => rfl
  | _ => cases hp

theorem tidy_of_sound {d : Description} (h : d.Sound) : tidy d = some d := by
  cases d with
  | text s =>
    obtain ⟨hb, ht⟩ := (sound_text s).mp h
    rw [tidy, hb, ht]
    rfl
  | _ => rfl

theorem forall_tidy_of_sound {P : Description → Prop} {d : Description} (hs : d.Sound) (hd : P d) :
    ∀ e, tidy d = some e → P e := by
  intro e he
  rw [tidy_of_sound hs, Option.some_inj] at he
  exact he ▸ hd

theorem isEntry_of_tidy_text {s : String} {d : Description} (h : tidy (text s) = some d) :
    d.IsEntry := by
  cases hb : Text.isBlankText s with
  | true => simp [tidy, hb] at h
  | false =>
    simp only [tidy, hb, Bool.false_eq_true, ↓reduceIte, Option.some.injEq] at h
    subst h
    exact ⟨(sound_text _).mpr (Text.IsTidy.of_trim hb), rfl⟩

theorem IsShaped.append {title : String} {xs ys : List Description}
    (hx : IsShaped (list (some title) xs)) (hy : IsShaped (list (some title) ys)) :
    IsShaped (list (some title) (xs ++ ys)) := by
  rcases hx with ⟨ht, hx⟩ | ⟨ht, hx⟩
  · rcases hy with ⟨-, hy⟩ | ⟨ht', -⟩
    · exact .inl ⟨ht, List.forall_mem_append.mpr ⟨hx, hy⟩⟩
    · simp [ht', preconditions, postconditions] at ht
  · rcases hy with ⟨ht', -⟩ | ⟨-, hy⟩
    · simp [ht, preconditions, postconditions] at ht'
    · exact .inr ⟨ht, List.forall_mem_append.mpr ⟨hx, hy⟩⟩

theorem sound_of_fuse {d e f : Description} (hd : d.Sound) (he : e.Sound)
    (h : fuse? d e = some f) : f.Sound := by
  rcases fuse?_eq_some h with ⟨s, t, rfl, rfl, rfl⟩ | ⟨title, xs, ys, rfl, rfl, rfl⟩
  · rw [sound_text] at *
    exact hd.append he
  · rw [sound_list] at *
    exact ⟨hd.1.append he.1, List.forall_mem_append.mpr ⟨hd.2, he.2⟩⟩

theorem isEntry_of_fuse {d e f : Description} (hd : d.IsEntry) (he : e.IsEntry)
    (h : fuse? d e = some f) : f.IsEntry := by
  refine ⟨sound_of_fuse hd.1 he.1 h, ?_⟩
  rcases fuse?_eq_some h with ⟨s, t, rfl, rfl, rfl⟩ | ⟨title, xs, ys, rfl, rfl, rfl⟩ <;> rfl

theorem wellFormed_merge {ds : List Description} {next : Description}
    (hds : WellFormed (paragraph ds)) (hn : ∀ d, tidy next = some d → d.IsEntry) :
    WellFormed (paragraph (merge ds next)) := by
  rw [wellFormed_paragraph] at *
  exact ⟨isChain_merge hds.1 next, forall_mem_merge (fun _ _ _ => isEntry_of_fuse) hds.2 hn⟩

theorem wellFormed_merge_text {ds : List Description} (h : WellFormed (paragraph ds)) (s : String) :
    WellFormed (paragraph (merge ds (text s))) :=
  wellFormed_merge h fun _ => isEntry_of_tidy_text

theorem wellFormed_merge_entry {ds : List Description} {d : Description}
    (h : WellFormed (paragraph ds)) (hd : d.IsEntry) : WellFormed (paragraph (merge ds d)) :=
  wellFormed_merge h (forall_tidy_of_sound hd.1 hd)

theorem sound_compose {ds : List Description} (h : ∀ d ∈ ds, d.Sound) :
    ∀ d ∈ compose ds, d.Sound := by
  apply forall_mem_compose (fun _ _ _ => sound_of_fuse)
  intro d hd
  exact forall_tidy_of_sound (h d hd) (h d hd)

theorem wellFormed_compose {ds : List Description} (h : ∀ d ∈ ds, d.IsEntry) :
    WellFormed (paragraph (compose ds)) := by
  rw [wellFormed_paragraph]
  refine ⟨isChain_compose ds, forall_mem_compose (fun _ _ _ => isEntry_of_fuse) ?_⟩
  intro d hd
  exact forall_tidy_of_sound (h d hd).1 (h d hd)

-- A list of texts has no such shape, and composition leaves two texts side by side in it.
example : ∃ ds : List Description, (∀ d ∈ ds, Everywhere IsNormal d) ∧
    ¬∀ d ∈ compose ds, Everywhere IsNormal d :=
  ⟨[list (some "Parameters") [text "a"], list (some "Parameters") [text "b"]], by decide⟩

theorem Sound.placement {d n c : Description} (h : d.Sound) (hn : n ∈ d.nodes)
    (hc : c ∈ n.children) :
    (c.isText = true → n.isParagraph = true) ∧
      (c.isParameter = true → n.listTitle = some "Parameters") := by
  have hs := (h n hn).2
  cases n with
  | text s => simp [children] at hc
  | paragraph ds =>
    have hp := hs c hc
    simp [isParagraph, hp]
  | list title ds =>
    rcases hs with ⟨-, hp⟩ | ⟨rfl, hp⟩
    · have hpc := hp c hc
      cases c <;> simp_all [isText, isParameter, isParagraph]
    · have hpc := hp c hc
      cases c <;> simp_all [isText, isParameter, listTitle]
  | _ =>
    obtain rfl := List.mem_singleton.mp hc
    simp only [IsShaped] at hs
    cases c <;> simp_all [isText, isParameter, isParagraph]

end SymbolDocs.Description
