import SymbolDocs.Proofs.Description.Reading
import SymbolDocs.Proofs.Index.Lookup

namespace SymbolDocs.Symbol

open Xml (Element)

mutual

def descriptions : Symbol → List Description
  | function f => f.description.toList
  | define d => d.description.toList
  | enum e => e.description.toList ++ e.values.flatMap fun value => value.description.toList
  | .variable x => x.description.toList
  | compound head members => head.description.toList ++ descriptionsAll members

def descriptionsAll : List Symbol → List Description
  | [] => []
  | s :: ss => descriptions s ++ descriptionsAll ss

end

theorem descriptionsAll_eq_flatMap (ss : List Symbol) :
    descriptionsAll ss = ss.flatMap descriptions := by
  induction ss with
  | nil => rfl
  | cons s ss ih => rw [descriptionsAll, ih, List.flatMap_cons]

mutual

def withMembers : Symbol → List Symbol
  | function f => [function f]
  | define d => [define d]
  | enum e => [enum e]
  | .variable x => [.variable x]
  | compound head members => compound head members :: withMembersAll members

def withMembersAll : List Symbol → List Symbol
  | [] => []
  | s :: ss => withMembers s ++ withMembersAll ss

end

theorem withMembersAll_eq_flatMap (ss : List Symbol) :
    withMembersAll ss = ss.flatMap withMembers := by
  induction ss with
  | nil => rfl
  | cons s ss ih => rw [withMembersAll, ih, List.flatMap_cons]

def ownDescriptions : Symbol → List Description
  | enum e => e.description.toList ++ e.values.flatMap fun value => value.description.toList
  | s => s.description.toList

def signature : Symbol → List Parameter
  | function f => f.parameters
  | _ => []

@[elab_as_elim]
theorem induction {P : Symbol → Prop} (function : ∀ f, P (function f)) (define : ∀ d, P (define d))
    (enum : ∀ e, P (enum e)) (variable_ : ∀ x, P (.variable x))
    (compound : ∀ head members, (∀ s ∈ members, P s) → P (compound head members)) (s : Symbol) :
    P s := by
  apply @Symbol.rec P (fun ss => ∀ s ∈ ss, P s) function define enum variable_ compound
  · simp
  · intro s ss hs hss t ht
    rcases List.mem_cons.mp ht with rfl | ht
    · exact hs
    · exact hss t ht

theorem descriptions_eq_flatMap (s : Symbol) :
    s.descriptions = s.withMembers.flatMap ownDescriptions := by
  induction s using Symbol.induction with
  | compound head members ih =>
    rw [descriptions, withMembers, List.flatMap_cons, descriptionsAll_eq_flatMap,
      withMembersAll_eq_flatMap, List.flatMap_assoc, List.flatMap_congr ih]
    rfl
  | _ => simp [descriptions, withMembers, ownDescriptions, description]

def WellDescribed (s : Symbol) : Prop :=
  ∀ d ∈ s.descriptions, d.WellFormed

theorem wellDescribed_compound (head : CompoundHead) (members : List Symbol) :
    WellDescribed (compound head members) ↔
      (∀ d ∈ head.description.toList, d.WellFormed) ∧ ∀ s ∈ members, s.WellDescribed := by
  simp only [WellDescribed, descriptions, descriptionsAll_eq_flatMap, List.forall_mem_append,
    List.forall_mem_flatMap]

theorem wellDescribed_enum (e : Enumeration) :
    WellDescribed (enum e) ↔ (∀ d ∈ e.description.toList, d.WellFormed) ∧
      ∀ value ∈ e.values, ∀ d ∈ value.description.toList, d.WellFormed := by
  simp only [WellDescribed, descriptions, List.forall_mem_append, List.forall_mem_flatMap]

variable {resolve : Resolver}

def ReadWith (resolve : Resolver) (s : Symbol) : Prop :=
  ∀ d ∈ s.ownDescriptions, ∃ e,
    Description.ofDeclaration ⟨some resolve, s.signature⟩ e = .ok (some d)

theorem exists_of_describe {parameters : List Parameter} {e : Element}
    {description : Option Description} (h : describe resolve parameters e = .ok description) :
    ∀ d ∈ description.toList, ∃ e,
      Description.ofDeclaration ⟨some resolve, parameters⟩ e = .ok (some d) := by
  intro d hd
  rw [Option.mem_toList] at hd
  exact ⟨e, Option.mem_def.mp hd ▸ h⟩

theorem readWith_readFunction {e : Element} {f : Function} (h : readFunction resolve e = .ok f) :
    ReadWith resolve (function f) := by
  obtain ⟨name, -, h⟩ := bind_eq_ok.mp h
  obtain ⟨type, -, h⟩ := bind_eq_ok.mp h
  obtain ⟨parameters, -, h⟩ := bind_eq_ok.mp h
  obtain ⟨description, hd, h⟩ := bind_eq_ok.mp h
  obtain ⟨location, -, ⟨⟩⟩ := bind_eq_ok.mp h
  exact exists_of_describe hd

theorem readWith_readDefine {e : Element} {m : Define} (h : readDefine resolve e = .ok m) :
    ReadWith resolve (define m) := by
  obtain ⟨name, -, h⟩ := bind_eq_ok.mp h
  obtain ⟨parameters, -, h⟩ := bind_eq_ok.mp h
  obtain ⟨value, -, h⟩ := bind_eq_ok.mp h
  obtain ⟨description, hd, h⟩ := bind_eq_ok.mp h
  obtain ⟨location, -, ⟨⟩⟩ := bind_eq_ok.mp h
  exact exists_of_describe hd

theorem exists_of_readEnumValue {e : Element} {value : EnumValue}
    (h : readEnumValue resolve e = .ok value) : ∀ d ∈ value.description.toList, ∃ e,
      Description.ofDeclaration ⟨some resolve, []⟩ e = .ok (some d) := by
  obtain ⟨name, -, h⟩ := bind_eq_ok.mp h
  obtain ⟨initializer, -, h⟩ := bind_eq_ok.mp h
  obtain ⟨description, hd, ⟨⟩⟩ := bind_eq_ok.mp h
  exact exists_of_describe hd

theorem readWith_readEnumeration {e : Element} {m : Enumeration}
    (h : readEnumeration resolve e = .ok m) : ReadWith resolve (enum m) := by
  obtain ⟨values, hv, h⟩ := bind_eq_ok.mp h
  obtain ⟨name, -, h⟩ := bind_eq_ok.mp h
  obtain ⟨description, hd, h⟩ := bind_eq_ok.mp h
  obtain ⟨location, -, ⟨⟩⟩ := bind_eq_ok.mp h
  refine List.forall_mem_append.mpr ⟨exists_of_describe hd, List.forall_mem_flatMap.mpr ?_⟩
  intro value hvalue
  obtain ⟨child, -, hchild⟩ := exists_of_mem_mapM hv hvalue
  exact exists_of_readEnumValue hchild

theorem readWith_readVariable {e : Element} {x : Variable} (h : readVariable resolve e = .ok x) :
    ReadWith resolve (.variable x) := by
  obtain ⟨name, -, h⟩ := bind_eq_ok.mp h
  obtain ⟨type, -, h⟩ := bind_eq_ok.mp h
  obtain ⟨qualified, -, h⟩ := bind_eq_ok.mp h
  obtain ⟨initializer, -, h⟩ := bind_eq_ok.mp h
  obtain ⟨description, hd, h⟩ := bind_eq_ok.mp h
  obtain ⟨location, -, ⟨⟩⟩ := bind_eq_ok.mp h
  exact exists_of_describe hd

theorem readWith_ofMember {e : Element} {s : Symbol} (h : ofMember resolve e = .ok s) :
    ∀ t ∈ s.withMembers, t.ReadWith resolve := by
  obtain ⟨kind, -, h⟩ := bind_eq_ok.mp h
  split at h
  · obtain ⟨f, hf, rfl⟩ := map_eq_ok.mp h
    exact List.forall_mem_singleton.mpr (readWith_readFunction hf)
  · obtain ⟨d, hd, rfl⟩ := map_eq_ok.mp h
    exact List.forall_mem_singleton.mpr (readWith_readDefine hd)
  · obtain ⟨m, hm, rfl⟩ := map_eq_ok.mp h
    exact List.forall_mem_singleton.mpr (readWith_readEnumeration hm)
  · obtain ⟨x, hx, rfl⟩ := map_eq_ok.mp h
    exact List.forall_mem_singleton.mpr (readWith_readVariable hx)
  · cases h

theorem readWith_ofCompound (load : String → Lookup Element) (depth : Nat) (document : Element) :
    Lookup.Gives (ofCompound resolve load depth document) fun s =>
      ∀ t ∈ s.withMembers, t.ReadWith resolve := by
  induction depth generalizing document with
  | zero =>
    rw [ofCompound]
    exact Lookup.gives_throw _ _
  | succ depth ih =>
    rw [ofCompound]
    refine Lookup.gives_bind (Lookup.gives_trivial _) fun e _ => ?_
    refine Lookup.gives_bind (Lookup.gives_trivial _) fun head _ => ?_
    refine Lookup.gives_bind (P := fun ss => ∀ s ∈ ss, ∀ t ∈ s.withMembers, t.ReadWith resolve) ?_
      fun inner hinner => ?_
    · apply Lookup.gives_mapM
      intro child _
      refine Lookup.gives_bind (Lookup.gives_trivial _) fun refid _ => ?_
      exact Lookup.gives_bind (Lookup.gives_trivial _) fun innerDocument _ => ih innerDocument
    refine Lookup.gives_bind (P := fun ss => ∀ s ∈ ss, ∀ t ∈ s.withMembers, t.ReadWith resolve) ?_
      fun members hm => ?_
    · apply Lookup.gives_ofExcept
      intro members hmembers s hs
      obtain ⟨child, -, hchild⟩ := exists_of_mem_mapM hmembers hs
      exact readWith_ofMember hchild
    refine Lookup.gives_bind (Lookup.gives_ofExcept fun o => exists_of_describe) fun o ho => ?_
    refine Lookup.gives_bind (Lookup.gives_trivial _) fun location _ => ?_
    apply Lookup.gives_pure
    rw [withMembers, withMembersAll_eq_flatMap, List.forall_mem_cons, List.forall_mem_flatMap]
    exact ⟨ho, List.forall_mem_append.mpr ⟨hinner, hm⟩⟩

/-- The symbols that can be built in a documentation directory: from the element of a member, and
from the document of a compound with whatever has been read before. -/
inductive IsBuilt : Symbol → Prop
  | member {index : Index} {e : Element} {s : Symbol} (h : ofMember index.resolve e = .ok s) :
      IsBuilt s
  | compound {index : Index} {fs : FileSystem} {document : Element} {cache cache' : Cache}
      {s : Symbol} (h : Lookup.outcome (index.buildCompound fs document) cache = (.ok s, cache')) :
      IsBuilt s

theorem IsBuilt.exists_readWith {s : Symbol} (h : s.IsBuilt) :
    ∃ resolve, ∀ t ∈ s.withMembers, t.ReadWith resolve := by
  cases h with
  | member h => exact ⟨_, readWith_ofMember h⟩
  | compound h =>
    rw [Index.buildCompound, Lookup.outcome_bind_ok (Lookup.outcome_get _)] at h
    exact ⟨_, readWith_ofCompound _ _ _ _ _ _ h⟩

theorem IsBuilt.wellDescribed {s : Symbol} (h : s.IsBuilt) : s.WellDescribed := by
  obtain ⟨resolve, hread⟩ := h.exists_readWith
  intro d hd
  rw [descriptions_eq_flatMap, List.mem_flatMap] at hd
  obtain ⟨t, ht, hd⟩ := hd
  obtain ⟨e, he⟩ := hread t ht d hd
  exact Description.wellFormed_ofDeclaration _ he

end SymbolDocs.Symbol
