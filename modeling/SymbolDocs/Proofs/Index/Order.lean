import Mathlib.Data.List.Perm.Basic
import SymbolDocs.Proofs.Index.References
import SymbolDocs.Proofs.Index.Resolution
import SymbolDocs.Proofs.Symbol.Resolvers
/-!
The order of the entries of an index. What an identifier is found to be does not depend on it, and
neither does what is built; only the error of a reference that cannot be resolved may.
-/

namespace SymbolDocs

open Xml (Element)

structure Reordered (tag : String) (es es' : List Element) : Prop where
  perm : es.Perm es'
  others : es.filter (·.name != tag) = es'.filter (·.name != tag)

inductive SameEntry : Element → Element → Prop
  | refl (e : Element) : SameEntry e e
  | compound {attributes : List Xml.Attribute} {text tail : String} {es es' : List Element}
      (h : Reordered "member" es es') :
      SameEntry (.mk "compound" attributes text es tail) (.mk "compound" attributes text es' tail)

def SameEntries (es es' : List Element) : Prop :=
  ∃ ds, es.Perm ds ∧ List.Forall₂ SameEntry ds es'

theorem Reordered.symm {tag : String} {es es' : List Element} (h : Reordered tag es es') :
    Reordered tag es' es :=
  ⟨h.perm.symm, h.others.symm⟩

theorem Reordered.find?_eq {tag key : String} {es es' : List Element} (h : Reordered tag es es')
    (hkey : key ≠ tag) : es.find? (fun c => c.name == key) = es'.find? fun c => c.name == key := by
  have hsub (ds : List Element) : ds.find? (fun c => c.name == key) =
      (ds.filter (·.name != tag)).find? fun c => c.name == key := by
    rw [List.find?_filter]
    congr 1
    funext c
    by_cases hc : c.name = key <;> simp [hc, hkey]
  rw [hsub es, hsub es', h.others]

namespace SameEntry

variable {e e' : Element}

theorem symm (h : SameEntry e e') : SameEntry e' e := by
  cases h with
  | refl => exact .refl e
  | compound h => exact .compound h.symm

theorem name_eq (h : SameEntry e e') : e.name = e'.name := by
  cases h <;> rfl

theorem attr?_eq (h : SameEntry e e') (key : String) : e.attr? key = e'.attr? key := by
  cases h <;> rfl

theorem perm_children (h : SameEntry e e') : e.children.Perm e'.children := by
  cases h with
  | refl => exact .refl _
  | compound h => exact h.perm

theorem child?_eq (h : SameEntry e e') {key : String} (hkey : key ≠ "member") :
    e.child? key = e'.child? key := by
  cases h with
  | refl => rfl
  | compound h => exact h.find?_eq hkey

theorem hasName_eq (h : SameEntry e e') (name : String) :
    Index.hasName e name = Index.hasName e' name := by
  rw [Index.hasName, Index.hasName, h.child?_eq (by decide)]

theorem targetName_eq (h : SameEntry e e') (kindref refid : String) :
    Index.targetName kindref refid e = Index.targetName kindref refid e' := by
  rw [Index.targetName, Index.targetName, h.child?_eq (by decide)]

end SameEntry

namespace SameEntries

variable {es es' : List Element}

theorem symm (h : SameEntries es es') : SameEntries es' es := by
  obtain ⟨ds, hperm, hsame⟩ := h
  obtain ⟨ds', hsame', hperm'⟩ := List.perm_comp_forall₂ hperm hsame
  refine ⟨ds', hperm'.symm, ?_⟩
  exact hsame'.flip.imp fun _ _ h => h.symm

theorem exists_mem (h : SameEntries es es') {e : Element} (he : e ∈ es) :
    ∃ e' ∈ es', SameEntry e e' := by
  obtain ⟨ds, hperm, hsame⟩ := h
  exact exists_mem_of_forall₂ hsame (hperm.mem_iff.mp he)

theorem filter (h : SameEntries es es') {p : Element → Bool}
    (hp : ∀ {e e'}, SameEntry e e' → p e = p e') : SameEntries (es.filter p) (es'.filter p) := by
  obtain ⟨ds, hperm, hsame⟩ := h
  refine ⟨ds.filter p, hperm.filter p, List.rel_filter ?_ hsame⟩
  intro e e' hentry
  simp [hp hentry]

theorem length_eq (h : SameEntries es es') : es.length = es'.length := by
  obtain ⟨ds, hperm, hsame⟩ := h
  exact hperm.length_eq.trans hsame.length_eq

end SameEntries

namespace Index

/-- The second index is the first with its compounds, and the members in each of them, in another
order. -/
inductive Rearranged : Index → Index → Prop
  | mk {dir name : String} {attributes : List Xml.Attribute} {text tail : String}
      {es ds es' : List Element} (hcompounds : Reordered "compound" es ds)
      (hmembers : List.Forall₂ SameEntry ds es') :
      Rearranged ⟨dir, .mk name attributes text es tail⟩ ⟨dir, .mk name attributes text es' tail⟩

structure Alike (index index' : Index) : Prop where
  dir : index.dir = index'.dir
  entries : SameEntries index.root.children index'.root.children

theorem Rearranged.alike {index index' : Index} (h : Rearranged index index') :
    Alike index index' := by
  cases h with
  | mk hcompounds hmembers => exact ⟨rfl, _, hcompounds.perm, hmembers⟩

variable {index index' : Index}

theorem Alike.symm (h : Alike index index') : Alike index' index :=
  ⟨h.dir.symm, h.entries.symm⟩

theorem Alike.exists_mem_descendants (h : Alike index index') {t : Element}
    (ht : t ∈ index.root.descendants) : ∃ t' ∈ index'.root.descendants, SameEntry t t' := by
  obtain ⟨c, hc, ht⟩ := Element.mem_descendants_iff.mp ht
  obtain ⟨c', hc', hentry⟩ := h.entries.exists_mem hc
  rcases ht with rfl | ht
  · exact ⟨c', Element.mem_descendants_iff.mpr ⟨c', hc', .inl rfl⟩, hentry⟩
  · -- What is inside a compound stays as it is, whatever the order of the members.
    obtain ⟨m, hm, ht⟩ := Element.mem_descendants_iff.mp ht
    have hinside : t ∈ c'.descendants :=
      Element.mem_descendants_iff.mpr ⟨m, hentry.perm_children.mem_iff.mp hm, ht⟩
    exact ⟨t, Element.mem_descendants_iff.mpr ⟨c', hc', .inr hinside⟩, .refl t⟩

theorem Alike.resolvesAs (h : Alike index index') : ResolvesAs index.resolve index'.resolve := by
  intro refid kindref name hname
  rw [resolve_eq_ok_iff] at *
  obtain ⟨hne, hall⟩ := hname
  constructor
  · obtain ⟨t, ht⟩ := List.exists_mem_of_ne_nil _ hne
    obtain ⟨hdesc, htag, hrefid⟩ := mem_targets_iff.mp ht
    obtain ⟨t', ht', hentry⟩ := h.exists_mem_descendants hdesc
    have htarget : t' ∈ index'.targets refid kindref :=
      mem_targets_iff.mpr ⟨ht', hentry.name_eq ▸ htag, hentry.attr?_eq _ ▸ hrefid⟩
    exact List.ne_nil_of_mem htarget
  · intro t' ht'
    obtain ⟨hdesc, htag, hrefid⟩ := mem_targets_iff.mp ht'
    obtain ⟨t, ht, hentry⟩ := h.symm.exists_mem_descendants hdesc
    rw [hentry.targetName_eq]
    exact hall t (mem_targets_iff.mpr ⟨ht, hentry.name_eq ▸ htag, hentry.attr?_eq _ ▸ hrefid⟩)

theorem Alike.lists (h : Alike index index') {scope : Option String} {name : String} {m : Element}
    (hm : index.Lists scope name m) : index'.Lists scope name m := by
  obtain ⟨c, hc, htag, hscope, hmem, hm⟩ := hm
  obtain ⟨c', hc', hentry⟩ := h.entries.exists_mem hc
  refine ⟨c', hc', hentry.name_eq ▸ htag, ?_, hentry.perm_children.mem_iff.mp hmem, hm⟩
  intro s hs
  rw [← hasName_iff, ← hentry.hasName_eq, hasName_iff]
  exact hscope s hs

theorem Alike.refids_eq (h : Alike index index') (scope : Option String) (name : String) :
    index.refids scope name = index'.refids scope name := by
  ext r
  constructor
  · rintro ⟨m, hm, hr⟩
    exact ⟨m, h.lists hm, hr⟩
  · rintro ⟨m, hm, hr⟩
    exact ⟨m, h.symm.lists hm, hr⟩

theorem Alike.memberRefids_cases (h : Alike index index') (scope : Option String) (name : String) :
    index.memberRefids scope name = index'.memberRefids scope name ∨
      ∃ a b t a' b' t', index.memberRefids scope name = .ok (a :: b :: t) ∧
        index'.memberRefids scope name = .ok (a' :: b' :: t') := by
  by_cases hall : ∀ m, index.Lists scope name m → m.attr? "refid" ≠ none
  · have hlist : ListedAs index scope name (index.refids scope name) := ⟨hall, rfl⟩
    have hlist' : ListedAs index' scope name (index.refids scope name) :=
      ⟨fun m hm => hall m (h.symm.lists hm), (h.refids_eq scope name).symm⟩
    rcases Set.subsingleton_or_nontrivial (index.refids scope name) with hone | hmany
    · left
      rcases hone.eq_empty_or_singleton with hempty | ⟨refid, hrefid⟩
      · rw [hempty] at hlist hlist'
        rw [memberRefids_of_empty hlist, memberRefids_of_empty hlist']
      · rw [hrefid] at hlist hlist'
        rw [memberRefids_of_singleton hlist, memberRefids_of_singleton hlist']
    · right
      obtain ⟨a, b, t, hrs⟩ := memberRefids_of_nontrivial hlist hmany
      obtain ⟨a', b', t', hrs'⟩ := memberRefids_of_nontrivial hlist' hmany
      exact ⟨a, b, t, a', b', t', hrs, hrs'⟩
  · left
    push Not at hall
    obtain ⟨m, hm, hrefid⟩ := hall
    rw [memberRefids_of_missing hm hrefid, memberRefids_of_missing (h.lists hm) hrefid]

theorem Alike.compounds_filter (h : Alike index index') (identifier : String) :
    SameEntries (index.compounds.filter (hasName · identifier))
      (index'.compounds.filter (hasName · identifier)) := by
  rw [filter_compounds, filter_compounds]
  apply h.entries.filter
  intro e e' hentry
  rw [hentry.name_eq, hentry.hasName_eq]

theorem Alike.load_eq (h : Alike index index') (fs : FileSystem) (refid : String) :
    index.load fs refid = index'.load fs refid := by
  rw [load, load, h.dir]

inductive Found where
  | member (e : Element)
  | compound (document : Element)

def locate (index : Index) (fs : FileSystem) (identifier : String) : Lookup Found := do
  let (scope, name) ← MonadExcept.ofExcept (splitScope identifier)
  match ← MonadExcept.ofExcept (index.memberRefids scope name) with
  | [] =>
    match index.compounds.filter (hasName · identifier) with
    | [] => throw (.unknownIdentifier identifier)
    | [compound] =>
      let refid ← MonadExcept.ofExcept (requiredAttr compound "compound" "refid")
      return .compound (← index.load fs refid)
    | _ => throw (.ambiguousIdentifier identifier)
  | [refid] =>
    let owner ← MonadExcept.ofExcept (owningCompound refid)
    let document ← index.load fs owner
    let compound ← MonadExcept.ofExcept (compoundDef document)
    return .member (← MonadExcept.ofExcept (locateMember compound name identifier))
  | _ => throw (.ambiguousIdentifier identifier)

def build (index : Index) (fs : FileSystem) : Found → Lookup Symbol
  | .member e => MonadExcept.ofExcept (Symbol.ofMember index.resolve e)
  | .compound document => index.buildCompound fs document

theorem collect_eq_locate_bind (index : Index) (fs : FileSystem) (identifier : String) :
    index.collect fs identifier = index.locate fs identifier >>= index.build fs := by
  rw [collect, locate, bind_assoc]
  apply bind_congr
  rintro ⟨scope, name⟩
  rw [bind_assoc]
  apply bind_congr
  intro refids
  rcases refids with _ | ⟨refid, _ | ⟨other, rest⟩⟩
  · rw [collectCompound]
    dsimp only
    generalize index.compounds.filter (hasName · identifier) = compounds
    rcases compounds with _ | ⟨compound, _ | ⟨other, rest⟩⟩
    · rfl
    · simp only [bind_assoc, pure_bind, build]
    · rfl
  · simp only [collectMember, bind_assoc, pure_bind, build]
  · rfl

theorem Alike.locate_eq (h : Alike index index') (fs : FileSystem) (identifier : String) :
    index.locate fs identifier = index'.locate fs identifier := by
  rw [locate, locate]
  apply bind_congr
  rintro ⟨scope, name⟩
  dsimp only
  rcases h.memberRefids_cases scope name with hsame | ⟨a, b, t, a', b', t', hmany, hmany'⟩
  · rw [hsame]
    apply bind_congr
    intro refids
    rcases refids with _ | ⟨refid, _ | ⟨other, rest⟩⟩
    · have hcompounds := h.compounds_filter identifier
      dsimp only
      generalize index.compounds.filter (hasName · identifier) = cs at *
      generalize index'.compounds.filter (hasName · identifier) = cs' at *
      have hlength := hcompounds.length_eq
      rcases cs with _ | ⟨c, _ | ⟨other, rest⟩⟩
      · obtain rfl := List.eq_nil_of_length_eq_zero hlength.symm
        rfl
      · obtain ⟨c', rfl⟩ := List.length_eq_one_iff.mp hlength.symm
        obtain ⟨d, hd, hentry⟩ := hcompounds.exists_mem List.mem_cons_self
        obtain rfl := List.mem_singleton.mp hd
        simp only [requiredAttr, hentry.attr?_eq, h.load_eq]
      · rcases cs' with _ | ⟨c', _ | ⟨other', rest'⟩⟩
        · cases hlength
        · cases hlength
        · rfl
    · simp only [h.load_eq]
    · rfl
  · rw [hmany, hmany']
    rfl

theorem Alike.below_build (h : Alike index index') (fs : FileSystem) (found : Found) :
    Lookup.Below (index.build fs found) (index'.build fs found) := by
  cases found with
  | member e => exact Lookup.below_ofExcept (Symbol.below_ofMember h.resolvesAs e)
  | compound document =>
    have hload : index.load fs = index'.load fs := funext (h.load_eq fs)
    rw [build, build, buildCompound, buildCompound, hload]
    refine (Lookup.Below.refl _).bind fun cache => ?_
    exact Lookup.below_ofCompound h.resolvesAs _ _ document

theorem Alike.below_collect (h : Alike index index') (fs : FileSystem) (identifier : String) :
    Lookup.Below (index.collect fs identifier) (index'.collect fs identifier) := by
  rw [collect_eq_locate_bind, collect_eq_locate_bind, h.locate_eq]
  exact (Lookup.Below.refl _).bind (h.below_build fs)

open Lookup (outcome)

theorem collect_of_rearranged (h : Rearranged index index') (fs : FileSystem) (cache : Cache)
    (identifier : String) :
    (∀ s, (outcome (index.collect fs identifier) cache).1 = .ok s ↔
      (outcome (index'.collect fs identifier) cache).1 = .ok s) ∧
    outcome (index.locate fs identifier) cache = outcome (index'.locate fs identifier) cache ∧
    ∀ e, (outcome (index.locate fs identifier) cache).1 = .error e →
      (outcome (index.collect fs identifier) cache).1 = .error e ∧
        (outcome (index'.collect fs identifier) cache).1 = .error e := by
  have hsame := h.alike.locate_eq fs identifier
  refine ⟨?_, by rw [hsame], ?_⟩
  · intro s
    constructor
    · intro hs
      exact congrArg Prod.fst (h.alike.below_collect fs identifier cache s _ (Prod.ext hs rfl))
    · intro hs
      exact congrArg Prod.fst (h.alike.symm.below_collect fs identifier cache s _ (Prod.ext hs rfl))
  · intro e he
    rw [collect_eq_locate_bind, collect_eq_locate_bind, ← hsame]
    constructor
    · exact congrArg Prod.fst (Lookup.outcome_bind_error (Prod.ext he rfl) (index.build fs))
    · exact congrArg Prod.fst (Lookup.outcome_bind_error (Prod.ext he rfl) (index'.build fs))

def memberEntry (name refid : String) : Element :=
  .mk "member" [("refid", refid)] "" [.mk "name" [] name [] ""] ""

def compoundEntry (name refid : String) (members : List Element) : Element :=
  .mk "compound" [("refid", refid)] "" (.mk "name" [] name [] "" :: members) ""

-- A file and a group list the same macro, each beside another one.
def fileFirst : Index :=
  ⟨"xml", .mk "doxygenindex" [] "" [
    compoundEntry "f.h" "f_8h" [memberEntry "LOW" "group__g_1a", memberEntry "HIGH" "group__g_1b"],
    compoundEntry "g" "group__g" [memberEntry "LOW" "group__g_1a"]] ""⟩

def groupFirst : Index :=
  ⟨"xml", .mk "doxygenindex" [] "" [
    compoundEntry "g" "group__g" [memberEntry "LOW" "group__g_1a"],
    compoundEntry "f.h" "f_8h"
      [memberEntry "HIGH" "group__g_1b", memberEntry "LOW" "group__g_1a"]] ""⟩

-- The description of the macro refers to the macro itself.
def groupDocument : Element :=
  .mk "doxygen" [] "" [.mk "compounddef" [("kind", "group")] "" [.mk "sectiondef" [] "" [
    .mk "memberdef" [("kind", "define")] "" [
      .mk "name" [] "LOW" [] "",
      .mk "briefdescription" [] "" [.mk "para" [] "See "
        [.mk "ref" [("refid", "group__g_1a"), ("kindref", "member")] "it" [] "."] ""] "",
      .mk "location" [("file", "f.h"), ("line", "1"), ("column", "9")] "" [] ""] ""] ""] ""] ""

theorem collect_of_rearranged_groupFirst : Rearranged fileFirst groupFirst ∧
    ∃ s, (outcome (fileFirst.collect ⟨[], []⟩ "LOW") [("group__g", groupDocument)]).1 = .ok s ∧
      (outcome (groupFirst.collect ⟨[], []⟩ "LOW") [("group__g", groupDocument)]).1 = .ok s ∧
      s.description.map (·.plainText) = some "See [it][LOW]." := by
  have h : Rearranged fileFirst groupFirst := by
    refine .mk ⟨.swap _ _ _, rfl⟩ (.cons (.refl _) (.cons (.compound ?_) .nil))
    exact ⟨(List.Perm.swap _ _ _).cons _, rfl⟩
  have hfound : (outcome (fileFirst.collect ⟨[], []⟩ "LOW") [("group__g", groupDocument)]).1.map
      (fun s => s.description.map (·.plainText)) = .ok (some "See [it][LOW].") := by decide +kernel
  obtain ⟨s, hs, htext⟩ := map_eq_ok.mp hfound
  exact ⟨h, s, hs, ((collect_of_rearranged h _ _ _).1 s).mp hs, htext⟩

end Index

end SymbolDocs
