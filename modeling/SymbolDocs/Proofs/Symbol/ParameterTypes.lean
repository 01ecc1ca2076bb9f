import SymbolDocs.Proofs.Symbol.Descriptions

namespace SymbolDocs

open Xml (Element)

namespace Description

/-- A documented parameter has the type of the first of the parameters that has its name. -/
def HasTypeFrom (parameters : List Parameter) : Description → Prop
  | parameter name type _ _ => type = (parameters.find? fun p => p.name == some name).bind (·.type)
  | _ => True

theorem keptByComposition_hasTypeFrom (parameters : List Parameter) :
    KeptByComposition (HasTypeFrom parameters) :=
  ⟨fun _ => trivial, fun _ _ => trivial⟩

theorem everywhere_paragraph_iff (parameters : List Parameter) (ds : List Description) :
    Everywhere (HasTypeFrom parameters) (paragraph ds) ↔
      ∀ d ∈ ds, Everywhere (HasTypeFrom parameters) d := by
  rw [everywhere_iff]
  exact and_iff_right trivial

theorem everywhere_sectionNode {parameters : List Parameter} {kind : String} {body d : Description}
    (hb : Everywhere (HasTypeFrom parameters) body) (h : sectionNode kind body = .ok d) :
    Everywhere (HasTypeFrom parameters) d := by
  have hbody := List.forall_mem_singleton.mpr hb
  revert h
  fun_cases sectionNode kind body <;> rintro ⟨⟩
  all_goals exact (everywhere_iff _ _).mpr ⟨trivial, hbody⟩

def typeInvariant (ctx : DescriptionContext) : Invariant ctx where
  Whole := Everywhere (HasTypeFrom ctx.parameters)
  Entry := Everywhere (HasTypeFrom ctx.parameters)
  Documented := Everywhere (HasTypeFrom ctx.parameters)
  empty := (everywhere_paragraph_iff _ _).mpr nofun
  together {ds} h := by
    unfold SymbolDocs.together
    split
    · next d => exact h d List.mem_cons_self
    · exact (everywhere_paragraph_iff _ _).mpr h
  merge_text {ds} h s := by
    rw [everywhere_paragraph_iff] at *
    have hkept := keptByComposition_hasTypeFrom ctx.parameters
    exact hkept.everywhere_merge h (hkept.everywhere_text s)
  merge_entry {ds d} h hd := by
    rw [everywhere_paragraph_iff] at *
    exact (keptByComposition_hasTypeFrom ctx.parameters).everywhere_merge h hd
  entry_of_whole h := h
  entry_of_section := everywhere_sectionNode
  entry_of_parameters h := (everywhere_iff _ _).mpr ⟨trivial, h⟩
  entry_of_items h := (everywhere_iff _ _).mpr ⟨trivial, h⟩
  documented name direction h := (everywhere_iff _ _).mpr ⟨rfl, List.forall_mem_singleton.mpr h⟩

theorem type_of_ofDeclaration {ctx : DescriptionContext} {e : Element} {d : Description}
    (h : ofDeclaration ctx e = .ok (some d)) {name : String} {type : Option String}
    {direction : Option Direction} {body : Description}
    (hn : parameter name type direction body ∈ d.nodes) :
    type = (ctx.parameters.find? fun p => p.name == some name).bind (·.type) :=
  (typeInvariant ctx).whole_ofDeclaration h _ hn

def documentedTypes (d : Description) : List (String × Option String) :=
  d.nodes.filterMap fun
    | parameter name type _ _ => some (name, type)
    | _ => none

end Description

namespace Symbol

theorem parameterTypes_of_isBuilt {s : Symbol} (h : s.IsBuilt) :
    (∀ f, function f ∈ s.withMembers → ∀ d, f.description = some d →
      ∀ name type direction body, Description.parameter name type direction body ∈ d.nodes →
        type = (f.parameters.find? fun p => p.name == some name).bind (·.type)) ∧
    ∀ t ∈ s.withMembers, (∀ f, t ≠ function f) → ∀ d ∈ t.ownDescriptions,
      ∀ name type direction body, Description.parameter name type direction body ∈ d.nodes →
        type = none := by
  obtain ⟨resolve, hread⟩ := h.exists_readWith
  constructor
  · intro f hf d hd name type direction body hn
    obtain ⟨e, he⟩ := hread _ hf d (Option.mem_toList.mpr hd)
    exact Description.type_of_ofDeclaration he hn
  · intro t ht hother d hd name type direction body hn
    obtain ⟨e, he⟩ := hread t ht d hd
    have hsignature : t.signature = [] := by
      cases t with
      | function f => exact absurd rfl (hother f)
      | _ => rfl
    rw [hsignature] at he
    exact Description.type_of_ofDeclaration he hn

def parameterMarkup (name : String) (inside : List Element) : Element :=
  .mk "parameterlist" [] "" [.mk "parameteritem" [] ""
    [.mk "parameternamelist" [] "" [.mk "parametername" [] name [] ""] "",
      .mk "parameterdescription" [] "" [.mk "para" [] "" inside ""] ""] ""] ""

def functionMarkup (name : String) (parameters : List (String × String)) (inside : List Element) :
    Element :=
  let declared := parameters.map fun p => .mk "param" [] ""
    [.mk "type" [] p.1 [] "", .mk "declname" [] p.2 [] ""] ""
  .mk "memberdef" [("kind", "function")] "" (declared ++ [.mk "name" [] name [] "",
    .mk "type" [] "void" [] "", .mk "detaileddescription" [] "" [.mk "para" [] "" inside ""] "",
    .mk "location" [("file", "a.h"), ("line", "1"), ("column", "1")] "" [] ""]) ""

def overloadedDocument : Element :=
  .mk "doxygen" [] "" [.mk "compounddef" [("kind", "struct")] ""
    [.mk "compoundname" [] "S" [] "",
      .mk "briefdescription" [] "" [.mk "para" [] "" [parameterMarkup "x" []] ""] "",
      .mk "sectiondef" [] ""
        [functionMarkup "f" [("int", "x"), ("struct s *", "y"), ("long", "x")]
          [parameterMarkup "y" [parameterMarkup "x" []], parameterMarkup "z" []],
          functionMarkup "g" [("char", "x")] [.mk "itemizedlist" [] "" [.mk "listitem" [] ""
            [.mk "para" [] "" [parameterMarkup "x" []] ""] ""] ""]] ""] ""] ""

theorem parameterTypes_of_isBuilt_overloaded : ∃ s : Symbol, s.IsBuilt ∧
    (s.withMembers.map fun t => (t.name, t.ownDescriptions.map Description.documentedTypes)) =
      [("S", [[("x", none)]]), ("f", [[("y", some "struct s*"), ("x", some "int"), ("z", none)]]),
        ("g", [[("x", some "char")]])] ∧
    (∀ f, function f ∈ s.withMembers → ∀ d, f.description = some d →
      ∀ name type direction body, Description.parameter name type direction body ∈ d.nodes →
        type = (f.parameters.find? fun p => p.name == some name).bind (·.type)) ∧
    ∀ t ∈ s.withMembers, (∀ f, t ≠ function f) → ∀ d ∈ t.ownDescriptions,
      ∀ name type direction body, Description.parameter name type direction body ∈ d.nodes →
        type = none := by
  let index : Index := ⟨"xml", .mk "doxygenindex" [] "" [] ""⟩
  have h : ((Lookup.outcome (index.buildCompound ⟨[], []⟩ overloadedDocument) []).1.map fun s =>
      s.withMembers.map fun t => (t.name, t.ownDescriptions.map Description.documentedTypes)) =
        .ok [("S", [[("x", none)]]),
          ("f", [[("y", some "struct s*"), ("x", some "int"), ("z", none)]]),
          ("g", [[("x", some "char")]])] := by decide +kernel
  obtain ⟨s, hs, hsummary⟩ := map_eq_ok.mp h
  have hbuilt : s.IsBuilt := .compound (Prod.ext hs rfl)
  exact ⟨s, hbuilt, hsummary, parameterTypes_of_isBuilt hbuilt⟩

end Symbol

end SymbolDocs
