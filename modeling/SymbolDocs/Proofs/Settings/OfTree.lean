import SymbolDocs.Proofs.Settings.Leaves

namespace SymbolDocs.Settings

theorem stringsFrom_map_string (origin : Origin) (key : List String) (n : Nat)
    (texts : List String) :
    Tree.stringsFrom origin key n (texts.map .string) = .ok texts := by
  induction texts generalizing n with
  | nil => rfl
  | cons s texts ih =>
    rw [List.map_cons, Tree.stringsFrom, ih]
    rfl

theorem strings_textsValue (key : List String) (origin : Origin) (texts : List String) :
    Tree.strings key (.leaf origin (textsValue texts)) = .ok texts :=
  stringsFrom_map_string origin key 0 texts

theorem field_eq_ok {α : Type} (read : List String → Tree → Except TypeError α) (put : α → Value)
    (hread : ∀ key origin a, read key (.leaf origin (put a)) = .ok a) (key : List String)
    {fields : List (String × Tree)} {name : String}
    (h : ∀ x, field? fields name = some x → ∃ origin a, x = .leaf origin (put a)) (default : α) :
    ∃ a, Tree.field read key fields name default = .ok a ∧
      put a = ((field? fields name).bind Tree.value?).getD (put default) := by
  unfold Tree.field
  cases hx : field? fields name with
  | none => exact ⟨default, rfl, rfl⟩
  | some x =>
    obtain ⟨origin, a, rfl⟩ := h x hx
    exact ⟨a, hread _ origin a, rfl⟩

def HoldsPart (part : String) (fields : List (String × Tree)) : Prop :=
  ∀ l : Leaf, l.part = part → ∀ x ∈ field? fields l.key, x.Holds l.kind

section

variable {part : String} {fields : List (String × Tree)} (h : HoldsPart part fields)
  (key : List String) (l : Leaf) (hpart : l.part = part)

include h hpart

theorem exists_text (hkind : l.kind = .text) (expected : Expected) (default : String) :
    ∃ s, Tree.field (Tree.text expected) key fields l.key default = .ok s ∧
      .string s = ((field? fields l.key).bind Tree.value?).getD (.string default) := by
  refine field_eq_ok (Tree.text expected) .string (fun _ _ _ => rfl) key ?_ default
  intro x hx
  obtain ⟨hv⟩ := hkind ▸ h l hpart x hx
  cases hv with
  | text s => exact ⟨_, s, rfl⟩

theorem exists_list (hkind : l.kind = .list) (default : List String) :
    ∃ texts, Tree.field Tree.strings key fields l.key default = .ok texts ∧
      textsValue texts = ((field? fields l.key).bind Tree.value?).getD (textsValue default) := by
  refine field_eq_ok Tree.strings textsValue strings_textsValue key ?_ default
  intro x hx
  obtain ⟨hv⟩ := hkind ▸ h l hpart x hx
  cases hv with
  | list texts => exact ⟨_, texts, rfl⟩

theorem exists_switch (hkind : l.kind = .switch) (default : Bool) :
    ∃ b, Tree.field Tree.bool key fields l.key default = .ok b ∧
      .bool b = ((field? fields l.key).bind Tree.value?).getD (.bool default) := by
  refine field_eq_ok Tree.bool .bool (fun _ _ _ => rfl) key ?_ default
  intro x hx
  obtain ⟨hv⟩ := hkind ▸ h l hpart x hx
  cases hv with
  | switch b => exact ⟨_, b, rfl⟩

end

theorem readExtraction_eq_ok {fields : List (String × Tree)} (h : HoldsPart "extraction" fields)
    (key : List String) (origin : Origin) :
    ∃ e, readExtraction key (.table origin fields) = .ok e ∧ ∀ l : Leaf, l.part = "extraction" →
      get ⟨e, {}⟩ l = ((field? fields l.key).bind Tree.value?).getD (({} : Settings).get l) := by
  obtain ⟨doxygen, hdoxygen, vdoxygen⟩ := exists_text h key .doxygen rfl rfl .path "doxygen"
  obtain ⟨predefined, hpredefined, vpredefined⟩ := exists_list h key .predefined rfl rfl []
  obtain ⟨projectName, hprojectName, vprojectName⟩ :=
    exists_text h key .projectName rfl rfl .string "Doxymark"
  obtain ⟨sourceDirectory, hsourceDirectory, vsourceDirectory⟩ :=
    exists_text h key .sourceDirectory rfl rfl .path "."
  obtain ⟨sources, hsources, vsources⟩ := exists_list h key .sources rfl rfl []
  obtain ⟨xmlOutput, hxmlOutput, vxmlOutput⟩ :=
    exists_text h key .xmlOutput rfl rfl .path "build/doxygen/xml"
  refine ⟨{ doxygen, sourceDirectory, sources, predefined, xmlOutput, projectName }, ?_, ?_⟩
  · simp only [Leaf.key] at hdoxygen hpredefined hprojectName hsourceDirectory hsources hxmlOutput
    simp only [readExtraction, hdoxygen, hpredefined, hprojectName, hsourceDirectory, hsources,
      hxmlOutput]
    rfl
  · intro l hl
    cases l with
    | doxygen => exact vdoxygen
    | sourceDirectory => exact vsourceDirectory
    | sources => exact vsources
    | predefined => exact vpredefined
    | xmlOutput => exact vxmlOutput
    | projectName => exact vprojectName
    | _ => exact absurd hl (by decide)

theorem readVisibility_eq_ok {fields : List (String × Tree)} (h : HoldsPart "render" fields)
    (key : List String) (origin : Origin) :
    ∃ r, readVisibility key (.table origin fields) = .ok r ∧ ∀ l : Leaf, l.part = "render" →
      get ⟨{}, r⟩ l = ((field? fields l.key).bind Tree.value?).getD (({} : Settings).get l) := by
  obtain ⟨description, hdescription, vdescription⟩ := exists_switch h key .description rfl rfl true
  obtain ⟨initializer, hinitializer, vinitializer⟩ := exists_switch h key .initializer rfl rfl true
  obtain ⟨postconditions, hpostconditions, vpostconditions⟩ :=
    exists_switch h key .postconditions rfl rfl true
  obtain ⟨preconditions, hpreconditions, vpreconditions⟩ :=
    exists_switch h key .preconditions rfl rfl true
  obtain ⟨returns, hreturns, vreturns⟩ := exists_switch h key .returns rfl rfl true
  refine ⟨{ description, initializer, preconditions, postconditions, returns }, ?_, ?_⟩
  · simp only [Leaf.key] at hdescription hinitializer hpostconditions hpreconditions hreturns
    simp only [readVisibility, hdescription, hinitializer, hpostconditions, hpreconditions,
      hreturns]
    rfl
  · intro l hl
    cases l with
    | description => exact vdescription
    | initializer => exact vinitializer
    | preconditions => exact vpreconditions
    | postconditions => exact vpostconditions
    | returns => exact vreturns
    | _ => exact absurd hl (by decide)

theorem holdsPart_of_child? {t : Tree} (ht : t.IsLayer) {part : String} {origin : Origin}
    {fields : List (String × Tree)} (h : t.child? part = some (.table origin fields)) :
    HoldsPart part fields := by
  intro l hl x hx
  apply ht.isWellTyped.holds l x
  rw [Tree.at?, hl, h]
  exact hx

theorem field_part_eq_ok {α : Type} (l₀ : Leaf) (read : List String → Tree → Except TypeError α)
    (put : α → Leaf → Value) (default : α) {origin : Origin} {fields : List (String × Tree)}
    (ht : (Tree.table origin fields).IsLayer)
    (hdefault : ∀ l : Leaf, l.part = l₀.part → put default l = ({} : Settings).get l)
    (hread : ∀ fields, HoldsPart l₀.part fields → ∀ key origin,
      ∃ a, read key (.table origin fields) = .ok a ∧ ∀ l : Leaf, l.part = l₀.part →
        put a l = ((field? fields l.key).bind Tree.value?).getD (({} : Settings).get l)) :
    ∃ a, Tree.field read [] fields l₀.part default = .ok a ∧ ∀ l : Leaf, l.part = l₀.part →
      put a l = ((Tree.table origin fields).setting? l).getD (({} : Settings).get l) := by
  have hsetting (l : Leaf) (hl : l.part = l₀.part) : (Tree.table origin fields).setting? l =
      ((field? fields l₀.part).bind (·.child? l.key)).bind Tree.value? := by
    rw [Tree.setting?, Tree.at?, hl]
    rfl
  unfold Tree.field
  cases hc : field? fields l₀.part with
  | none =>
    refine ⟨default, rfl, fun l hl => ?_⟩
    rw [hsetting l hl, hc]
    exact hdefault l hl
  | some c =>
    have htable := ht.isWellTyped.isTable l₀ c hc
    cases c with
    | leaf => cases htable
    | table o inner =>
      obtain ⟨a, ha, hput⟩ := hread inner (holdsPart_of_child? ht hc) ([] ++ [l₀.part]) o
      refine ⟨a, ha, fun l hl => ?_⟩
      rw [hsetting l hl, hc]
      exact hput l hl

theorem ofTree_eq_ok {t : Tree} (ht : t.IsLayer) :
    ∃ s, ofTree t = .ok s ∧ ∀ l, s.get l = (t.setting? l).getD (({} : Settings).get l) := by
  cases t with
  | leaf => cases ht.isTable
  | table origin fields =>
    obtain ⟨e, he, hextraction⟩ := field_part_eq_ok .doxygen readExtraction (fun e => get ⟨e, {}⟩)
      {} ht (fun _ _ => rfl) fun _ => readExtraction_eq_ok
    obtain ⟨r, hr, hrender⟩ := field_part_eq_ok .returns readVisibility (fun r => get ⟨{}, r⟩)
      {} ht (fun _ _ => rfl) fun _ => readVisibility_eq_ok
    refine ⟨⟨e, r⟩, ?_, ?_⟩
    · simp only [Leaf.part] at he hr
      rw [ofTree, he, hr]
      rfl
    · intro l
      cases l with
      | doxygen => exact hextraction .doxygen rfl
      | sourceDirectory => exact hextraction .sourceDirectory rfl
      | sources => exact hextraction .sources rfl
      | predefined => exact hextraction .predefined rfl
      | xmlOutput => exact hextraction .xmlOutput rfl
      | projectName => exact hextraction .projectName rfl
      | description => exact hrender .description rfl
      | initializer => exact hrender .initializer rfl
      | preconditions => exact hrender .preconditions rfl
      | postconditions => exact hrender .postconditions rfl
      | returns => exact hrender .returns rfl

end SymbolDocs.Settings
