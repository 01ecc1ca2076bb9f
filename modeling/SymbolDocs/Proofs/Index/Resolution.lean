import SymbolDocs.Proofs.Index.Identifier
import SymbolDocs.Proofs.Index.Loading
/-!
What an identifier stands for in a documentation directory, said as rules, and that a look-up gives
exactly that.
-/

namespace SymbolDocs.Index

open Xml (Element)
open Lookup (outcome)

def IsOnly {α : Type} (P : α → Prop) (l : List α) (a : α) : Prop :=
  ∃ before after, l = before ++ a :: after ∧ P a ∧ ∀ b ∈ before ++ after, ¬P b

def HasTwo {α : Type} (P : α → Prop) (l : List α) : Prop :=
  ∃ a b, [a, b].Sublist l ∧ P a ∧ P b

section Counting

variable {α : Type} {p : α → Bool} {P : α → Prop} (hp : ∀ a, p a = true ↔ P a)
include hp

theorem filter_eq_nil_of_none {l : List α} (h : ∀ a ∈ l, ¬P a) : l.filter p = [] := by
  rw [List.filter_eq_nil_iff]
  exact fun a ha hpa => h a ha ((hp a).mp hpa)

theorem filter_eq_singleton_iff (l : List α) (a : α) : l.filter p = [a] ↔ IsOnly P l a := by
  rw [List.filter_eq_cons_iff]
  constructor
  · rintro ⟨before, after, hl, hb, ha, hafter⟩
    refine ⟨before, after, hl, (hp a).mp ha, ?_⟩
    rw [List.filter_eq_nil_iff] at hafter
    rw [List.forall_mem_append]
    exact ⟨fun b hbm => (hp b).not.mp (hb b hbm), fun b hbm => (hp b).not.mp (hafter b hbm)⟩
  · rintro ⟨before, after, hl, ha, hrest⟩
    rw [List.forall_mem_append] at hrest
    refine ⟨before, after, hl, fun b hbm => (hp b).not.mpr (hrest.1 b hbm), (hp a).mpr ha, ?_⟩
    exact filter_eq_nil_of_none hp hrest.2

theorem filter_of_hasTwo {l : List α} (h : HasTwo P l) : ∃ a b t, l.filter p = a :: b :: t := by
  obtain ⟨a, b, hab, ha, hb⟩ := h
  have hsub := hab.filter p
  simp only [List.filter_cons, (hp a).mpr ha, (hp b).mpr hb, ↓reduceIte, List.filter_nil] at hsub
  match hl : l.filter p with
  | [] => simp [hl] at hsub
  | [c] => simp [hl] at hsub
  | c :: d :: t => exact ⟨c, d, t, rfl⟩

theorem none_or_only_or_two (l : List α) :
    (∀ a ∈ l, ¬P a) ∨ (∃ a, IsOnly P l a) ∨ HasTwo P l := by
  match hl : l.filter p with
  | [] =>
    rw [List.filter_eq_nil_iff] at hl
    exact .inl fun a ha => (hp a).not.mp (hl a ha)
  | [a] => exact .inr (.inl ⟨a, (filter_eq_singleton_iff hp l a).mp hl⟩)
  | a :: b :: t =>
    have hmem (c : α) (hc : c ∈ a :: b :: t) : P c := by
      rw [← hl, List.mem_filter] at hc
      exact (hp c).mp hc.2
    refine .inr (.inr ⟨a, b, ?_, hmem a (by simp), hmem b (by simp)⟩)
    have hsub : [a, b].Sublist (a :: b :: t) := by simp
    exact (hl ▸ hsub).trans List.filter_sublist

end Counting

def declarations (compound : Element) : List Element :=
  (compound.childrenNamed "sectiondef").flatMap fun s => s.childrenNamed "memberdef"

theorem findAll_sectiondef_memberdef (compound : Element) :
    compound.findAll "sectiondef/memberdef" = declarations compound := by
  have hp : Element.pathSteps "sectiondef/memberdef" = ["sectiondef", "memberdef"] := by decide
  simp [Element.findAll, hp, Element.select, declarations]

variable (index : Index) (fs : FileSystem) (cache : Cache) (identifier : String)

inductive FromOwner (owner name : String) : Except Error Symbol × Cache → Prop
  | unreadable {e : Error} {cache' : Cache}
      (hload : Loads index fs cache owner (.error e, cache')) :
      FromOwner owner name (.error e, cache')
  | undefined {document : Element} {cache' : Cache}
      (hload : Loads index fs cache owner (.ok document, cache'))
      (hdef : document.child? "compounddef" = none) :
      FromOwner owner name (.error (.missingField document.name "compounddef"), cache')
  | unknown {document compound : Element} {cache' : Cache}
      (hload : Loads index fs cache owner (.ok document, cache'))
      (hdef : document.child? "compounddef" = some compound)
      (hnone : ∀ m ∈ declarations compound, ¬Named m name) :
      FromOwner owner name (.error (.unknownIdentifier identifier), cache')
  | ambiguous {document compound : Element} {cache' : Cache}
      (hload : Loads index fs cache owner (.ok document, cache'))
      (hdef : document.child? "compounddef" = some compound)
      (htwo : HasTwo (Named · name) (declarations compound)) :
      FromOwner owner name (.error (.ambiguousIdentifier identifier), cache')
  | declared {document compound m : Element} {cache' : Cache}
      (hload : Loads index fs cache owner (.ok document, cache'))
      (hdef : document.child? "compounddef" = some compound)
      (honly : IsOnly (Named · name) (declarations compound) m) :
      FromOwner owner name (Symbol.ofMember index.resolve m, cache')

def IsCompound (c : Element) : Prop :=
  c.name = "compound" ∧ Named c identifier

inductive FromCompounds : Except Error Symbol × Cache → Prop
  | unknown (hnone : ∀ c ∈ index.root.children, ¬IsCompound identifier c) :
      FromCompounds (.error (.unknownIdentifier identifier), cache)
  | ambiguous (htwo : HasTwo (IsCompound identifier) index.root.children) :
      FromCompounds (.error (.ambiguousIdentifier identifier), cache)
  | missingRefid {c : Element} (honly : IsOnly (IsCompound identifier) index.root.children c)
      (hrefid : c.attr? "refid" = none) :
      FromCompounds (.error (.missingField "compound" "refid"), cache)
  | unreadable {c : Element} {refid : String} {e : Error} {cache' : Cache}
      (honly : IsOnly (IsCompound identifier) index.root.children c)
      (hrefid : c.attr? "refid" = some refid)
      (hload : Loads index fs cache refid (.error e, cache')) :
      FromCompounds (.error e, cache')
  | documented {c document : Element} {refid : String} {cache' : Cache}
      (honly : IsOnly (IsCompound identifier) index.root.children c)
      (hrefid : c.attr? "refid" = some refid)
      (hload : Loads index fs cache refid (.ok document, cache')) :
      FromCompounds (outcome (index.buildCompound fs document) cache')

structure Asks (scope : Option String) (name : String) : Prop where
  splits : Splits identifier scope name
  plain : ¬HasSeparator name

structure ListedAs (scope : Option String) (name : String) (refids : Set String) : Prop where
  present : ∀ m, index.Lists scope name m → m.attr? "refid" ≠ none
  eq : index.refids scope name = refids

/-- What an identifier gives. The refids of the members of its name decide: several are ambiguous,
one leads to the document of its owner and nowhere else, and only without any the compounds are
asked. -/
inductive Resolves : Except Error Symbol × Cache → Prop
  | nestedScope {scope name : String} (hsplit : Splits identifier (some scope) name)
      (hname : HasSeparator name) : Resolves (.error (.nestedScope identifier), cache)
  | missingRefid {scope : Option String} {name : String} {m : Element}
      (hask : Asks identifier scope name) (hm : index.Lists scope name m)
      (hrefid : m.attr? "refid" = none) : Resolves (.error (.missingField "member" "refid"), cache)
  | ambiguous {scope : Option String} {name : String} {refids : Set String}
      (hask : Asks identifier scope name) (hlist : ListedAs index scope name refids)
      (hmany : refids.Nontrivial) : Resolves (.error (.ambiguousIdentifier identifier), cache)
  | invalidRefid {scope : Option String} {name refid : String}
      (hask : Asks identifier scope name) (hlist : ListedAs index scope name {refid})
      (howner : ∀ owner, ¬Owns owner refid) : Resolves (.error (.invalidRefid refid), cache)
  | member {scope : Option String} {name refid owner : String} {o : Except Error Symbol × Cache}
      (hask : Asks identifier scope name) (hlist : ListedAs index scope name {refid})
      (howner : Owns owner refid) (ho : FromOwner index fs cache identifier owner name o) :
      Resolves o
  | compound {scope : Option String} {name : String} {o : Except Error Symbol × Cache}
      (hask : Asks identifier scope name) (hlist : ListedAs index scope name ∅)
      (ho : FromCompounds index fs cache identifier o) : Resolves o

theorem exists_fromOwner (owner name : String) :
    ∃ o, FromOwner index fs cache identifier owner name o := by
  obtain ⟨⟨e | document, cache'⟩, hload⟩ := exists_loads index fs cache owner
  · exact ⟨_, .unreadable hload⟩
  · cases hdef : document.child? "compounddef" with
    | none => exact ⟨_, .undefined hload hdef⟩
    | some compound =>
      rcases none_or_only_or_two (hasName_iff · name) (declarations compound) with
        hnone | ⟨m, honly⟩ | htwo
      · exact ⟨_, .unknown hload hdef hnone⟩
      · exact ⟨_, .declared hload hdef honly⟩
      · exact ⟨_, .ambiguous hload hdef htwo⟩

variable {index fs cache identifier}

theorem outcome_collectMember {owner refid name : String} {o : Except Error Symbol × Cache}
    (howner : Owns owner refid) (h : FromOwner index fs cache identifier owner name o) :
    outcome (index.collectMember fs refid name identifier) cache = o := by
  have ho : outcome (MonadExcept.ofExcept (owningCompound refid)) cache = (.ok owner, cache) := by
    rw [Lookup.outcome_ofExcept, (owningCompound_eq_ok_iff refid owner).mpr howner]
  rw [collectMember, Lookup.outcome_bind_ok ho]
  cases h with
  | unreadable hload => rw [Lookup.outcome_bind_error hload.outcome_eq]
  | undefined hload hdef =>
    rw [Lookup.outcome_bind_ok hload.outcome_eq]
    simp [Lookup.outcome_bind, compoundDef, hdef]
  | unknown hload hdef hnone =>
    rw [Lookup.outcome_bind_ok hload.outcome_eq]
    have hfilter := filter_eq_nil_of_none (hasName_iff · name) hnone
    simp [Lookup.outcome_bind, compoundDef, hdef, locateMember, findAll_sectiondef_memberdef,
      hfilter]
  | ambiguous hload hdef htwo =>
    rw [Lookup.outcome_bind_ok hload.outcome_eq]
    obtain ⟨a, b, t, hfilter⟩ := filter_of_hasTwo (hasName_iff · name) htwo
    simp [Lookup.outcome_bind, compoundDef, hdef, locateMember, findAll_sectiondef_memberdef,
      hfilter]
  | declared hload hdef honly =>
    rw [Lookup.outcome_bind_ok hload.outcome_eq]
    have hfilter := (filter_eq_singleton_iff (hasName_iff · name) _ _).mpr honly
    simp [Lookup.outcome_bind, compoundDef, hdef, locateMember, findAll_sectiondef_memberdef,
      hfilter]

theorem isCompound_iff (c : Element) :
    (c.name == "compound" && hasName c identifier) = true ↔ IsCompound identifier c := by
  simp [IsCompound, hasName_iff]

theorem filter_compounds :
    index.compounds.filter (hasName · identifier) =
      index.root.children.filter fun c => c.name == "compound" && hasName c identifier := by
  simp only [compounds, Element.childrenNamed, List.filter_filter, Bool.and_comm]

variable (index fs cache identifier) in
theorem exists_fromCompounds : ∃ o, FromCompounds index fs cache identifier o := by
  rcases none_or_only_or_two isCompound_iff index.root.children with hnone | ⟨c, honly⟩ | htwo
  · exact ⟨_, .unknown hnone⟩
  · cases hrefid : c.attr? "refid" with
    | none => exact ⟨_, .missingRefid honly hrefid⟩
    | some refid =>
      obtain ⟨⟨e | document, cache'⟩, hload⟩ := exists_loads index fs cache refid
      · exact ⟨_, .unreadable honly hrefid hload⟩
      · exact ⟨_, .documented honly hrefid hload⟩
  · exact ⟨_, .ambiguous htwo⟩

theorem outcome_collectCompound {o : Except Error Symbol × Cache}
    (h : FromCompounds index fs cache identifier o) :
    outcome (index.collectCompound fs identifier) cache = o := by
  rw [collectCompound, filter_compounds]
  cases h with
  | unknown hnone =>
    rw [filter_eq_nil_of_none isCompound_iff hnone]
    rfl
  | ambiguous htwo =>
    obtain ⟨a, b, t, hfilter⟩ := filter_of_hasTwo isCompound_iff htwo
    rw [hfilter]
    rfl
  | missingRefid honly hrefid =>
    rw [(filter_eq_singleton_iff isCompound_iff _ _).mpr honly]
    simp [Lookup.outcome_bind, requiredAttr_of_none hrefid]
  | unreadable honly hrefid hload =>
    rw [(filter_eq_singleton_iff isCompound_iff _ _).mpr honly]
    simp [Lookup.outcome_bind, (requiredAttr_eq_ok_iff _ _ _ _).mpr hrefid, hload.outcome_eq]
  | documented honly hrefid hload =>
    rw [(filter_eq_singleton_iff isCompound_iff _ _).mpr honly]
    simp [Lookup.outcome_bind, (requiredAttr_eq_ok_iff _ _ _ _).mpr hrefid, hload.outcome_eq]

section Listed

variable {scope : Option String} {name : String}

theorem memberRefids_of_empty (h : ListedAs index scope name ∅) :
    index.memberRefids scope name = .ok [] := by
  obtain ⟨rs, hrs, hmem, -⟩ := memberRefids_of_refids h.present
  rw [h.eq] at hmem
  rw [hrs, List.eq_nil_iff_forall_not_mem.mpr fun r hr => (hmem r).mp hr]

theorem memberRefids_of_singleton {refid : String} (h : ListedAs index scope name {refid}) :
    index.memberRefids scope name = .ok [refid] := by
  obtain ⟨rs, hrs, hmem, hne⟩ := memberRefids_of_refids h.present
  rw [h.eq] at hmem
  match rs, hrs, hmem, hne with
  | [], _, hmem, _ => exact absurd ((hmem refid).mpr rfl) List.not_mem_nil
  | [r], hrs, hmem, _ => rw [hrs, (hmem r).mp List.mem_cons_self]
  | a :: b :: t, _, hmem, hne =>
    have ha := (hmem a).mp List.mem_cons_self
    have hb := (hmem b).mp (List.mem_cons_of_mem a List.mem_cons_self)
    exact absurd (ha.trans hb.symm) (hne a b t rfl)

theorem memberRefids_of_nontrivial {refids : Set String} (h : ListedAs index scope name refids)
    (hmany : refids.Nontrivial) : ∃ a b t, index.memberRefids scope name = .ok (a :: b :: t) := by
  obtain ⟨rs, hrs, hmem, -⟩ := memberRefids_of_refids h.present
  rw [h.eq] at hmem
  obtain ⟨r, hr, r', hr', hne⟩ := hmany
  match rs, hrs, hmem with
  | [], _, hmem => exact absurd ((hmem r).mpr hr) List.not_mem_nil
  | [a], _, hmem =>
    have hra := List.mem_singleton.mp ((hmem r).mpr hr)
    have hra' := List.mem_singleton.mp ((hmem r').mpr hr')
    exact absurd (hra.trans hra'.symm) hne
  | a :: b :: t, hrs, _ => exact ⟨a, b, t, hrs⟩

end Listed

theorem outcome_collect_of_asks {scope : Option String} {name : String}
    (h : Asks identifier scope name) :
    outcome (index.collect fs identifier) cache = match index.memberRefids scope name with
      | .error e => (.error e, cache)
      | .ok [] => outcome (index.collectCompound fs identifier) cache
      | .ok [refid] => outcome (index.collectMember fs refid name identifier) cache
      | .ok _ => (.error (.ambiguousIdentifier identifier), cache) := by
  rw [collect, splitScope_of_splits h.splits h.plain]
  match hr : index.memberRefids scope name with
  | .error e => simp [Lookup.outcome_bind, hr]
  | .ok [] => simp [Lookup.outcome_bind, hr]
  | .ok [refid] => simp [Lookup.outcome_bind, hr]
  | .ok (a :: b :: t) => simp [Lookup.outcome_bind, hr]

theorem outcome_collect {o : Except Error Symbol × Cache}
    (h : Resolves index fs cache identifier o) :
    outcome (index.collect fs identifier) cache = o := by
  cases h with
  | nestedScope hsplit hname =>
    rw [collect, splitScope_of_nested hsplit hname]
    simp [Lookup.outcome_bind]
  | missingRefid hask hm hrefid =>
    rw [outcome_collect_of_asks hask, memberRefids_of_missing hm hrefid]
  | ambiguous hask hlist hmany =>
    obtain ⟨a, b, t, hrs⟩ := memberRefids_of_nontrivial hlist hmany
    rw [outcome_collect_of_asks hask, hrs]
  | invalidRefid hask hlist howner =>
    rw [outcome_collect_of_asks hask, memberRefids_of_singleton hlist]
    simp [collectMember, owningCompound_of_not_owns howner, Lookup.outcome_bind]
  | member hask hlist howner ho =>
    rw [outcome_collect_of_asks hask, memberRefids_of_singleton hlist]
    exact outcome_collectMember howner ho
  | compound hask hlist ho =>
    rw [outcome_collect_of_asks hask, memberRefids_of_empty hlist]
    exact outcome_collectCompound ho

variable (index fs cache identifier)

theorem exists_resolves : ∃ o, Resolves index fs cache identifier o := by
  obtain ⟨scope, name, hsplit⟩ := exists_splits identifier
  by_cases hname : HasSeparator name
  · cases hsplit with
    | bare h => exact absurd hname h
    | qualified h hfirst => exact ⟨_, .nestedScope (.qualified h hfirst) hname⟩
  · have hask : Asks identifier scope name := ⟨hsplit, hname⟩
    by_cases hall : ∀ m, index.Lists scope name m → m.attr? "refid" ≠ none
    · rcases Set.subsingleton_or_nontrivial (index.refids scope name) with hone | hmany
      · rcases hone.eq_empty_or_singleton with hempty | ⟨refid, hrefid⟩
        · obtain ⟨o, ho⟩ := exists_fromCompounds index fs cache identifier
          exact ⟨o, .compound hask ⟨hall, hempty⟩ ho⟩
        · by_cases howner : ∃ owner, Owns owner refid
          · obtain ⟨owner, howner⟩ := howner
            obtain ⟨o, ho⟩ := exists_fromOwner index fs cache identifier owner name
            exact ⟨o, .member hask ⟨hall, hrefid⟩ howner ho⟩
          · exact ⟨_, .invalidRefid hask ⟨hall, hrefid⟩ (not_exists.mp howner)⟩
      · exact ⟨_, .ambiguous hask ⟨hall, rfl⟩ hmany⟩
    · push Not at hall
      obtain ⟨m, hm, hrefid⟩ := hall
      exact ⟨_, .missingRefid hask hm hrefid⟩

theorem outcome_collect_eq_iff (o : Except Error Symbol × Cache) :
    outcome (index.collect fs identifier) cache = o ↔ Resolves index fs cache identifier o := by
  constructor
  · intro h
    obtain ⟨o', ho'⟩ := exists_resolves index fs cache identifier
    rw [← h, outcome_collect ho']
    exact ho'
  · exact outcome_collect

def structEntry : Element :=
  .mk "compound" [("kind", "struct"), ("refid", "structA")] ""
    [.mk "name" [] "A" [] "", .mk "member" [("refid", "structA_1f")] "" [.mk "name" [] "f" [] ""] ""]
    ""

def structIndex : Index :=
  ⟨"xml", .mk "doxygenindex" [] "" [structEntry] ""⟩

def structText : String :=
  "<d><compounddef><sectiondef><memberdef kind='define'><name>f</name>" ++
    "<location file='a' line='1' column='2'/></memberdef></sectiondef></compounddef></d>"

def structFiles : FileSystem :=
  ⟨[(["xml"], .directory), (["xml", "structA.xml"], .file structText.toUTF8 false)], []⟩

def macroElement : Element :=
  .mk "memberdef" [("kind", "define")] ""
    [.mk "name" [] "f" [] "",
      .mk "location" [("file", "a"), ("line", "1"), ("column", "2")] "" [] ""] ""

def structTree : Element :=
  .mk "d" [] "" [.mk "compounddef" [] "" [.mk "sectiondef" [] "" [macroElement] ""] ""] ""

set_option maxRecDepth 2000 in
theorem parse_structText : Xml.parseDocument structText = .ok structTree := by
  rfl

theorem loads_struct : Loads structIndex structFiles [] "structA"
    (.ok structTree, [("structA", structTree)]) := by
  have hpath : structIndex.documentPath "structA" = "xml/structA.xml" := by decide +kernel
  refine .read nofun ?_
  rw [hpath]
  exact .parsed (FileSystem.readText_eq_ok rfl) parse_structText

theorem lists_struct_iff (m : Element) : structIndex.Lists (some "A") "f" m ↔
    m = .mk "member" [("refid", "structA_1f")] "" [.mk "name" [] "f" [] ""] "" := by
  constructor
  · rintro ⟨c, hc, -, -, hm, hname, -⟩
    obtain rfl := List.mem_singleton.mp hc
    rcases List.mem_cons.mp hm with rfl | hm
    · exact absurd hname (by decide)
    · exact List.mem_singleton.mp hm
  · rintro rfl
    refine ⟨structEntry, List.mem_singleton_self _, rfl, ?_, ?_, rfl, _, rfl, by decide +kernel⟩
    · rintro s ⟨⟩
      exact ⟨_, rfl, by decide +kernel⟩
    · exact List.mem_cons_of_mem _ (List.mem_singleton_self _)

theorem outcome_collect_eq_iff_struct :
    outcome (structIndex.collect structFiles "A::f") [] =
      (.ok (.define ⟨"f", none, none, none, ⟨"a", 1, 2⟩⟩), [("structA", structTree)]) := by
  have hask : Asks "A::f" (some "A") "f" := by
    refine ⟨.qualified rfl ?_, ?_⟩ <;> unfold HasSeparator <;> decide
  have hlist : ListedAs structIndex (some "A") "f" {"structA_1f"} := by
    constructor
    · intro m hm
      obtain rfl := (lists_struct_iff m).mp hm
      exact Option.some_ne_none "structA_1f"
    · ext refid
      constructor
      · rintro ⟨m, hm, hrefid⟩
        obtain rfl := (lists_struct_iff m).mp hm
        exact (Option.some.inj hrefid).symm
      · rintro rfl
        exact ⟨_, (lists_struct_iff _).mpr rfl, rfl⟩
  have howner : Owns "structA" "structA_1f" := ⟨by decide, "1f", rfl, by decide⟩
  have honly : IsOnly (Named · "f") [macroElement] macroElement :=
    ⟨[], [], rfl, ⟨_, rfl, by decide +kernel⟩, nofun⟩
  exact (outcome_collect_eq_iff _ _ _ _ _).mpr
    (.member hask hlist howner (.declared loads_struct rfl honly))

end SymbolDocs.Index
