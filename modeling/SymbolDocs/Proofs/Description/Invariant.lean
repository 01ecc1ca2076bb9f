import SymbolDocs.Description.OfMarkup
import SymbolDocs.Proofs.Description.Composition
import SymbolDocs.Proofs.Description.Nodes
import SymbolDocs.Proofs.Outcome

namespace SymbolDocs.Description

open Xml (Element)

/-- Properties that reading in a context keeps: one of paragraphs, which are descriptions of their
own, one of what stands in them, and one of documented parameters. -/
structure Invariant (ctx : DescriptionContext) where
  Whole : Description → Prop
  Entry : Description → Prop
  Documented : Description → Prop
  empty : Whole (paragraph [])
  together {ds : List Description} : (∀ d ∈ ds, Whole d) → Whole (together ds)
  merge_text {ds : List Description} :
    Whole (paragraph ds) → ∀ s, Whole (paragraph (merge ds (text s)))
  merge_entry {ds : List Description} {d : Description} :
    Whole (paragraph ds) → Entry d → Whole (paragraph (merge ds d))
  entry_of_whole {d : Description} : Whole d → Entry d
  entry_of_section {kind : String} {body d : Description} :
    Whole body → sectionNode kind body = .ok d → Entry d
  entry_of_parameters {ds : List Description} :
    (∀ d ∈ ds, Documented d) → Entry (list (some "Parameters") ds)
  entry_of_items {ds : List Description} : (∀ d ∈ ds, Whole d) → Entry (list none ds)
  documented {body : Description} (name : String) (direction : Option Direction) :
    Whole body → Documented (parameter name (ctx.typeOf? name) direction body)

namespace Invariant

variable {ctx : DescriptionContext} (I : Invariant ctx)

theorem merge_block {before : List Description} {block : Description}
    (hb : I.Whole (paragraph before)) (h : I.Entry block) (tail : String) :
    I.Whole (paragraph (merge (merge before block) (text tail))) :=
  I.merge_text (I.merge_entry hb h) tail

mutual

theorem whole_ofParagraph : ∀ (e : Element) (d : Description),
    ofParagraph ctx e = .ok d → I.Whole d
  | .mk name _ own children _, d, h => by
    rw [ofParagraph] at h
    split at h
    · obtain ⟨ds, hds, rfl⟩ := map_eq_ok.mp h
      exact whole_composeChildren (I.merge_text I.empty own) children ds hds
    · cases h

theorem whole_composeChildren {before : List Description}
    (hb : I.Whole (paragraph before)) : ∀ (es : List Element) (ds : List Description),
    composeChildren ctx before es = .ok ds → I.Whole (paragraph ds)
  | [], ds, h => by
    rw [composeChildren] at h
    exact Except.ok.inj h ▸ hb
  | e :: es, ds, h => by
    rw [composeChildren] at h
    split at h
    · obtain ⟨s, -, h⟩ := bind_eq_ok.mp h
      exact whole_composeChildren (I.merge_text hb s) es ds h
    · obtain ⟨block, hblock, h⟩ := bind_eq_ok.mp h
      have he := I.entry_of_whole (whole_ofParagraph e block hblock)
      exact whole_composeChildren (I.merge_block hb he e.tail) es ds h
    · obtain ⟨block, hblock, h⟩ := bind_eq_ok.mp h
      have he := entry_ofSection e block hblock
      exact whole_composeChildren (I.merge_block hb he e.tail) es ds h
    · obtain ⟨block, hblock, h⟩ := bind_eq_ok.mp h
      have he := entry_ofParameterList e block hblock
      exact whole_composeChildren (I.merge_block hb he e.tail) es ds h
    · obtain ⟨block, hblock, h⟩ := bind_eq_ok.mp h
      have he := entry_ofItemizedList e block hblock
      exact whole_composeChildren (I.merge_block hb he e.tail) es ds h

theorem entry_ofSection : ∀ (e : Element) (d : Description),
    ofSection ctx e = .ok d → I.Entry d
  | .mk name attributes own children tail, d, h => by
    rw [ofSection] at h
    split at h
    · cases h
    · obtain ⟨kind, -, h⟩ := bind_eq_ok.mp h
      obtain ⟨body, hbody, h⟩ := bind_eq_ok.mp h
      exact I.entry_of_section (I.together (whole_paragraphsAmong children body hbody)) h

theorem entry_ofParameterList : ∀ (e : Element) (d : Description),
    ofParameterList ctx e = .ok d → I.Entry d
  | .mk name attributes own children tail, d, h => by
    rw [ofParameterList] at h
    split at h
    · cases h
    · obtain ⟨ds, hds, rfl⟩ := map_eq_ok.mp h
      exact I.entry_of_parameters (documented_parametersAmong children ds hds)

theorem entry_ofItemizedList : ∀ (e : Element) (d : Description),
    ofItemizedList ctx e = .ok d → I.Entry d
  | .mk _ _ _ children _, d, h => by
    rw [ofItemizedList] at h
    obtain ⟨ds, hds, rfl⟩ := map_eq_ok.mp h
    exact I.entry_of_items (whole_listItems children ds hds)

theorem whole_paragraphsAmong : ∀ (es : List Element) (ds : List Description),
    paragraphsAmong ctx es = .ok ds → ∀ d ∈ ds, I.Whole d
  | [], ds, h => by
    rw [paragraphsAmong] at h
    simp [← Except.ok.inj h]
  | e :: es, ds, h => by
    rw [paragraphsAmong] at h
    split at h
    · obtain ⟨first, hfirst, h⟩ := bind_eq_ok.mp h
      obtain ⟨rest, hrest, h⟩ := bind_eq_ok.mp h
      rw [← Except.ok.inj h, List.forall_mem_cons]
      exact ⟨whole_ofParagraph e first hfirst, whole_paragraphsAmong es rest hrest⟩
    · exact whole_paragraphsAmong es ds h

theorem documented_parametersAmong : ∀ (es : List Element) (ds : List Description),
    parametersAmong ctx es = .ok ds → ∀ d ∈ ds, I.Documented d
  | [], ds, h => by
    rw [parametersAmong] at h
    simp [← Except.ok.inj h]
  | .mk name attributes own children tail :: es, ds, h => by
    rw [parametersAmong] at h
    split at h
    · obtain ⟨⟨documented, direction⟩, -, h⟩ := bind_eq_ok.mp h
      obtain ⟨body, hbody, h⟩ := bind_eq_ok.mp h
      obtain ⟨rest, hrest, h⟩ := bind_eq_ok.mp h
      rw [← Except.ok.inj h, List.forall_mem_cons]
      have hb := I.together (whole_parameterParagraphs children body hbody)
      exact ⟨I.documented documented direction hb, documented_parametersAmong es rest hrest⟩
    · exact documented_parametersAmong es ds h

theorem whole_parameterParagraphs : ∀ (es : List Element) (ds : List Description),
    parameterParagraphs ctx es = .ok ds → ∀ d ∈ ds, I.Whole d
  | [], ds, h => by
    rw [parameterParagraphs] at h
    simp [← Except.ok.inj h]
  | .mk name _ _ children _ :: es, ds, h => by
    rw [parameterParagraphs] at h
    split at h
    · obtain ⟨first, hfirst, h⟩ := bind_eq_ok.mp h
      obtain ⟨rest, hrest, h⟩ := bind_eq_ok.mp h
      rw [← Except.ok.inj h, List.forall_mem_append]
      exact ⟨whole_paragraphsAmong children first hfirst, whole_parameterParagraphs es rest hrest⟩
    · exact whole_parameterParagraphs es ds h

theorem whole_listItems : ∀ (es : List Element) (ds : List Description),
    listItems ctx es = .ok ds → ∀ d ∈ ds, I.Whole d
  | [], ds, h => by
    rw [listItems] at h
    simp [← Except.ok.inj h]
  | .mk name _ _ children _ :: es, ds, h => by
    rw [listItems] at h
    split at h
    · split at h
      · cases h
      · obtain ⟨body, hbody, h⟩ := bind_eq_ok.mp h
        obtain ⟨rest, hrest, h⟩ := bind_eq_ok.mp h
        rw [← Except.ok.inj h, List.forall_mem_cons]
        exact ⟨I.together (whole_paragraphsAmong children body hbody), whole_listItems es rest hrest⟩
    · cases h

end

theorem whole_ofParagraphs {es : List Element} {d : Description}
    (h : ofParagraphs ctx es = .ok d) : I.Whole d := by
  obtain ⟨ds, hds, rfl⟩ := map_eq_ok.mp h
  apply I.together
  intro d hd
  obtain ⟨e, -, he⟩ := exists_of_mem_mapM hds hd
  exact I.whole_ofParagraph e d he

theorem whole_ofDeclaration {e : Element} {d : Description}
    (h : ofDeclaration ctx e = .ok (some d)) : I.Whole d := by
  unfold ofDeclaration at h
  split at h
  · cases h
  · obtain ⟨d', hd', ⟨⟩⟩ := map_eq_ok.mp h
    exact I.whole_ofParagraphs hd'

end Invariant

structure KeptByComposition (P : Description → Prop) : Prop where
  text (s : String) : P (text s)
  list {title : String} {xs : List Description} (ys : List Description) :
    P (list (some title) xs) → P (list (some title) ys)

namespace KeptByComposition

variable {P : Description → Prop} (h : KeptByComposition P)

include h

theorem everywhere_text (s : String) : Everywhere P (.text s) := by
  rw [everywhere_iff]
  exact ⟨h.text s, nofun⟩

theorem everywhere_fuse {d e f : Description} (hd : Everywhere P d) (he : Everywhere P e)
    (hf : fuse? d e = some f) : Everywhere P f := by
  rcases fuse?_eq_some hf with ⟨s, t, rfl, rfl, rfl⟩ | ⟨title, xs, ys, rfl, rfl, rfl⟩
  · exact h.everywhere_text _
  · rw [everywhere_iff] at *
    exact ⟨h.list _ hd.1, List.forall_mem_append.mpr ⟨hd.2, he.2⟩⟩

theorem everywhere_tidy {d : Description} (hd : Everywhere P d) :
    ∀ e, tidy d = some e → Everywhere P e := by
  intro e he
  cases d with
  | text s =>
    rw [tidy] at he
    split at he
    · cases he
    · exact Option.some.inj he ▸ h.everywhere_text _
  | _ => exact Option.some.inj he ▸ hd

theorem everywhere_merge {ds : List Description} {next : Description}
    (hds : ∀ d ∈ ds, Everywhere P d) (hn : Everywhere P next) :
    ∀ d ∈ merge ds next, Everywhere P d :=
  forall_mem_merge (fun _ _ _ => h.everywhere_fuse) hds (h.everywhere_tidy hn)

end KeptByComposition

end SymbolDocs.Description
