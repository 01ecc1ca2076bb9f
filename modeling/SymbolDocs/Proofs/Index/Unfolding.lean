import Mathlib.Data.Set.Card
import SymbolDocs.Proofs.Index.Caching
import SymbolDocs.Proofs.Index.Resolution
/-!
Compounds with all that is inside them. Where no chain of inner classes comes back to a refid, a
compound is built from a bounded number of levels, and what is built has one symbol for each inner
class and each declaration, at every level.
-/

namespace SymbolDocs

open Xml (Element)

theorem ofExcept_eq {α : Type} (x : Except Error α) :
    (MonadExcept.ofExcept x : Except Error α) = x := by
  cases x <;> rfl

namespace Symbol

section Level

variable {m : Type → Type} [Monad m] [MonadExceptOf Error m]

def level (resolve : Resolver) (load : String → m Element) (build : Element → m Symbol)
    (document : Element) : m Symbol := do
  let e ← MonadExcept.ofExcept (compoundDef document)
  let head ← MonadExcept.ofExcept (readCompoundTitle e)
  let inner ← (e.childrenNamed "innerclass").mapM fun child => do
    let refid ← MonadExcept.ofExcept (requiredAttr child "innerclass" "refid")
    build (← load refid)
  let members ← MonadExcept.ofExcept ((e.findAll "sectiondef/memberdef").mapM (ofMember resolve))
  let description ← MonadExcept.ofExcept (describe resolve [] e)
  let location ← MonadExcept.ofExcept (location? e)
  return .compound ⟨head.type, head.name, head.title, description, location⟩ (inner ++ members)

theorem ofCompound_eq_iterate (resolve : Resolver) (load : String → m Element) (depth : Nat) :
    ofCompound resolve load depth =
      (level resolve load)^[depth] fun _ => throw .endlessNesting := by
  induction depth with
  | zero =>
    funext document
    rfl
  | succ depth ih =>
    rw [Function.iterate_succ_apply', ← ih]
    funext document
    rfl

end Level

variable {resolve : Resolver} {documents : Documents}

def innerDocument (documents : Documents) (child : Element) : Except Error Element := do
  let refid ← requiredAttr child "innerclass" "refid"
  documents refid

/-- A document and its symbol, with everything inside it: one compound for each inner class, which
is the symbol of the document of that refid, and then one symbol for each declaration, both in
document order. -/
inductive Unfolds (resolve : Resolver) (documents : Documents) : Element → Symbol → Prop
  | compound {document e : Element} {head : CompoundTitle} {inners : List Element}
      {inner members : List Symbol} {description : Option Description} {location : Option Location}
      (hdef : compoundDef document = .ok e)
      (hhead : readCompoundTitle e = .ok head)
      (hinners : (e.childrenNamed "innerclass").map (innerDocument documents) = inners.map .ok)
      (hinner : List.Forall₂ (Unfolds resolve documents) inners inner)
      (hmembers : (Index.declarations e).map (ofMember resolve) = members.map .ok)
      (hdescription : describe resolve [] e = .ok description)
      (hlocation : location? e = .ok location) :
      Unfolds resolve documents document
        (.compound ⟨head.type, head.name, head.title, description, location⟩ (inner ++ members))

theorem ofCompound_succ (depth : Nat) (document : Element) :
    ofCompound resolve documents (depth + 1) document = (do
      let e ← compoundDef document
      let head ← readCompoundTitle e
      let inner ← (e.childrenNamed "innerclass").mapM fun child =>
        innerDocument documents child >>= ofCompound resolve documents depth
      let members ← (Index.declarations e).mapM (ofMember resolve)
      let description ← describe resolve [] e
      let location ← location? e
      .ok (.compound ⟨head.type, head.name, head.title, description, location⟩
        (inner ++ members))) := by
  rw [ofCompound]
  simp only [ofExcept_eq, innerDocument, bind_assoc, Index.findAll_sectiondef_memberdef]
  rfl

theorem unfolds_of_ofCompound {depth : Nat} {document : Element} {s : Symbol}
    (h : ofCompound resolve documents depth document = .ok s) :
    Unfolds resolve documents document s := by
  induction depth generalizing document s with
  | zero => cases h
  | succ depth ih =>
    rw [ofCompound_succ] at h
    obtain ⟨e, hdef, h⟩ := bind_eq_ok.mp h
    obtain ⟨head, hhead, h⟩ := bind_eq_ok.mp h
    obtain ⟨inner, hinner, h⟩ := bind_eq_ok.mp h
    obtain ⟨members, hmembers, h⟩ := bind_eq_ok.mp h
    obtain ⟨description, hdescription, h⟩ := bind_eq_ok.mp h
    obtain ⟨location, hlocation, h⟩ := bind_eq_ok.mp h
    obtain rfl := Except.ok.inj h
    obtain ⟨inners, hinners, hinner⟩ := mapM_bind_eq_ok_iff.mp hinner
    exact .compound hdef hhead (mapM_eq_ok_iff.mp hinners) (hinner.imp fun _ _ => ih)
      (mapM_eq_ok_iff.mp hmembers) hdescription hlocation

theorem innerDocument_eq_ok_iff {child d : Element} :
    innerDocument documents child = .ok d ↔
      ∃ refid, child.attr? "refid" = some refid ∧ documents refid = .ok d := by
  rw [innerDocument, bind_eq_ok]
  simp only [requiredAttr_eq_ok_iff]

theorem ofCompound_of_unfolds {depth : Nat} {document : Element} {s : Symbol}
    (hdepth : documents.Within depth document) (h : Unfolds resolve documents document s) :
    ofCompound resolve documents depth document = .ok s := by
  -- An unfolding holds a list of unfoldings, so the induction is on the depth.
  induction depth generalizing document s with
  | zero => exact absurd hdepth id
  | succ depth ih =>
    obtain @⟨_, e, head, inners, inner, members, description, location, hdef, hhead, hinners,
      hinner, hmembers, hdescription, hlocation⟩ := h
    rw [← mapM_eq_ok_iff] at hinners hmembers
    have hwithin : ∀ d ∈ inners, documents.Within depth d := by
      intro d hd
      obtain ⟨child, hchild, hload⟩ := exists_of_mem_mapM hinners hd
      obtain ⟨refid, hrefid, hload⟩ := bind_eq_ok.mp hload
      exact hdepth refid (Documents.mem_innerRefids hdef hchild hrefid) d hload
    have hbuilt := ((List.forall₂_and_left _ _).mpr ⟨hwithin, hinner⟩).imp
      fun _ _ h => ih h.1 h.2
    rw [ofCompound_succ]
    refine bind_eq_ok.mpr ⟨e, hdef, bind_eq_ok.mpr ⟨head, hhead, ?_⟩⟩
    refine bind_eq_ok.mpr ⟨inner, mapM_bind_eq_ok_iff.mpr ⟨inners, hinners, hbuilt⟩, ?_⟩
    refine bind_eq_ok.mpr ⟨members, hmembers, bind_eq_ok.mpr ⟨description, hdescription, ?_⟩⟩
    exact bind_eq_ok.mpr ⟨location, hlocation, rfl⟩

theorem Unfolds.exists_inner {document : Element} {s : Symbol} {refid : String}
    (h : Unfolds resolve documents document s) (hrefid : refid ∈ innerRefids document) :
    ∃ d t, documents refid = .ok d ∧ Unfolds resolve documents d t := by
  obtain ⟨hdef, -, hinners, hinner, -, -, -⟩ := h
  rw [Documents.innerRefids_of_compoundDef hdef] at hrefid
  obtain ⟨child, hchild, hattr⟩ := List.mem_filterMap.mp hrefid
  obtain ⟨d, hd, hload⟩ := exists_mem_of_mapM (mapM_eq_ok_iff.mpr hinners) hchild
  obtain ⟨refid', hattr', hload⟩ := innerDocument_eq_ok_iff.mp hload
  obtain rfl := Option.some.inj (hattr.symm.trans hattr')
  obtain ⟨t, -, ht⟩ := exists_mem_of_forall₂ hinner hd
  exact ⟨d, t, hload, ht⟩

theorem Unfolds.exists_member {document e member : Element} {s : Symbol}
    (h : Unfolds resolve documents document s) (he : compoundDef document = .ok e)
    (hmember : member ∈ Index.declarations e) : ∃ t, ofMember resolve member = .ok t := by
  obtain ⟨hdef, -, -, -, hmembers, -, -⟩ := h
  obtain rfl := Except.ok.inj (hdef.symm.trans he)
  obtain ⟨t, -, ht⟩ := exists_mem_of_mapM (mapM_eq_ok_iff.mpr hmembers) hmember
  exact ⟨t, ht⟩

end Symbol

namespace Documents

def NeverReturns (documents : Documents) (document : Element) : Prop :=
  ∀ chain, documents.IsNesting document chain → chain.Nodup

def Reaches (documents : Documents) : Element → Element → Prop :=
  Relation.ReflTransGen fun outer d => ∃ refid ∈ innerRefids outer, documents refid = .ok d

def innerclasses (documents : Documents) (document : Element) : Set String :=
  {r | r ∈ innerRefids document ∨ ∃ refid d, documents refid = .ok d ∧ r ∈ innerRefids d}

variable {documents : Documents} {document d : Element}

theorem NeverReturns.of_reaches (h : documents.NeverReturns document)
    (hd : documents.Reaches document d) : documents.NeverReturns d := by
  induction hd with
  | refl => exact h
  | tail _ hinner ih =>
    -- What leads to a document comes before every chain that starts from it.
    obtain ⟨refid, hrefid, hload⟩ := hinner
    intro chain hchain
    exact (ih (refid :: chain) (hchain.cons hrefid hload)).of_cons

theorem NeverReturns.length_le (h : documents.NeverReturns document)
    (hfinite : (documents.innerclasses document).Finite) {chain : List String}
    (hchain : documents.IsNesting document chain) :
    chain.length ≤ (documents.innerclasses document).ncard := by
  have hmem : ∀ r ∈ chain, r ∈ documents.innerclasses document :=
    hchain.forall_mem (fun r hr => .inl hr) fun refid d hload r hr => .inr ⟨refid, d, hload, hr⟩
  have hsub : (chain.toFinset : Set String) ⊆ documents.innerclasses document := by
    intro r hr
    rw [Finset.mem_coe, List.mem_toFinset] at hr
    exact hmem r hr
  calc chain.length = chain.toFinset.card := (List.toFinset_card_of_nodup (h chain hchain)).symm
    _ = (chain.toFinset : Set String).ncard := (Set.ncard_coe_finset _).symm
    _ ≤ (documents.innerclasses document).ncard := Set.ncard_le_ncard hsub hfinite

theorem NeverReturns.within (h : documents.NeverReturns document)
    (hfinite : (documents.innerclasses document).Finite) {depth : Nat}
    (hdepth : (documents.innerclasses document).ncard < depth) :
    documents.Within depth document :=
  within_of_length fun _ hchain => Nat.lt_of_le_of_lt (h.length_le hfinite hchain) hdepth

theorem exists_unfolds_of_reaches {resolve : Resolver} {s : Symbol}
    (h : Symbol.Unfolds resolve documents document s) (hd : documents.Reaches document d) :
    ∃ t, Symbol.Unfolds resolve documents d t := by
  induction hd with
  | refl => exact ⟨s, h⟩
  | tail _ hinner ih =>
    obtain ⟨refid, hrefid, hload⟩ := hinner
    obtain ⟨t, ht⟩ := ih
    obtain ⟨d', t', hload', ht'⟩ := ht.exists_inner hrefid
    obtain rfl := Except.ok.inj (hload.symm.trans hload')
    exact ⟨t', ht'⟩

end Documents

def Yields {α : Type} (documents seen : Documents) (x : Lookup α) (result : Except Error α) :
    Prop :=
  ∀ cache, cache.over documents = seen →
    ∃ cache', Lookup.outcome x cache = (result, cache') ∧ cache'.over documents = seen

section Yields

variable {α β : Type} {documents seen : Documents}

theorem yields_ofExcept (x : Except Error α) :
    Yields documents seen (MonadExcept.ofExcept x) x :=
  fun cache hseen => ⟨cache, Lookup.outcome_ofExcept x cache, hseen⟩

theorem Yields.bind {x : Lookup α} {result : Except Error α} {f : α → Lookup β}
    {g : α → Except Error β} (h : Yields documents seen x result)
    (hf : ∀ a, result = .ok a → Yields documents seen (f a) (g a)) :
    Yields documents seen (x >>= f) (result >>= g) := by
  intro cache hseen
  obtain ⟨cache', hx, hseen'⟩ := h cache hseen
  cases result with
  | error e => exact ⟨cache', Lookup.outcome_bind_error hx f, hseen'⟩
  | ok a =>
    rw [Lookup.outcome_bind_ok hx]
    exact hf a rfl cache' hseen'

theorem Yields.mapM {f : α → Lookup β} {g : α → Except Error β} {xs : List α}
    (h : ∀ x ∈ xs, Yields documents seen (f x) (g x)) :
    Yields documents seen (xs.mapM f) (xs.mapM g) := by
  induction xs with
  | nil => exact yields_ofExcept (.ok [])
  | cons x xs ih =>
    rw [List.forall_mem_cons] at h
    rw [List.mapM_cons, List.mapM_cons]
    exact h.1.bind fun y _ => (ih h.2).bind fun ys _ => yields_ofExcept (.ok (y :: ys))

end Yields

namespace Index

variable (index : Index) (fs : FileSystem)

theorem yields_load (seen : Documents) (refid : String) :
    Yields (index.documents fs) seen (index.load fs refid) (seen refid) := by
  intro cache hseen
  obtain ⟨result, cache', loaded, hload, hafresh, hadds⟩ :=
    index.mirrors_load fs seen refid cache [] hseen
  have hresult : seen refid = result := by
    rw [← seen.fst_outcome_load refid [], hafresh]
  exact ⟨cache', hresult ▸ hload, hadds.over_eq.trans hseen⟩

theorem yields_iterate_level {seen : Documents} {m n : Nat} {document : Element}
    (hm : seen.Within m document) (hn : seen.Within n document)
    (deeper : Element → Lookup Symbol) :
    Yields (index.documents fs) seen
      ((Symbol.level index.resolve (index.load fs))^[m] deeper document)
      (Symbol.ofCompound index.resolve seen n document) := by
  induction m generalizing n document with
  | zero => exact absurd hm id
  | succ m ih =>
    cases n with
    | zero => exact absurd hn id
    | succ n =>
      rw [Function.iterate_succ_apply', Symbol.level, Symbol.ofCompound_succ]
      refine (yields_ofExcept _).bind fun e he => (yields_ofExcept _).bind fun head _ => ?_
      rw [findAll_sectiondef_memberdef]
      refine (Yields.mapM fun child hchild => ?_).bind fun inner _ => ?_
      · rw [Symbol.innerDocument, bind_assoc]
        refine (yields_ofExcept _).bind fun refid hrefid => ?_
        have hmem := Documents.mem_innerRefids he hchild hrefid
        refine (index.yields_load fs seen refid).bind fun d hd => ?_
        exact ih (hm refid hmem d hd) (hn refid hmem d hd)
      · refine (yields_ofExcept _).bind fun members _ => ?_
        refine (yields_ofExcept _).bind fun description _ => ?_
        exact (yields_ofExcept _).bind fun location _ => yields_ofExcept (.ok _)

variable (cache : Cache) (document : Element)

theorem innerclasses_subset :
    (cache.over (index.documents fs)).innerclasses document ⊆
      ((innerRefids document ++ innerPool fs cache).toFinset : Set String) := by
  intro r hr
  rw [Finset.mem_coe, List.mem_toFinset, List.mem_append]
  rcases hr with hr | ⟨refid, d, hload, hr⟩
  · exact .inl hr
  · exact .inr (innerRefids_subset_innerPool hload hr)

theorem finite_innerclasses : ((cache.over (index.documents fs)).innerclasses document).Finite :=
  (Finset.finite_toSet _).subset (index.innerclasses_subset fs cache document)

theorem ncard_innerclasses_lt :
    ((cache.over (index.documents fs)).innerclasses document).ncard <
      nestingLimit fs cache document := by
  have hsub := Set.ncard_le_ncard (index.innerclasses_subset fs cache document)
    (Finset.finite_toSet _)
  rw [Set.ncard_coe_finset] at hsub
  have hdups := List.toFinset_card_le (innerRefids document ++ innerPool fs cache)
  have hpool := length_innerPool_lt fs cache document
  omega

variable {index fs cache document}

theorem fst_outcome_iterate_level {m n : Nat}
    (hm : (cache.over (index.documents fs)).Within m document)
    (hn : (cache.over (index.documents fs)).Within n document)
    (deeper : Element → Lookup Symbol) :
    (((Symbol.level index.resolve (index.load fs))^[m] deeper document).outcome cache).1 =
      Symbol.ofCompound index.resolve (cache.over (index.documents fs)) n document := by
  obtain ⟨cache', h, -⟩ := index.yields_iterate_level fs hm hn deeper cache rfl
  rw [h]

theorem fst_outcome_buildCompound {n : Nat}
    (h : (cache.over (index.documents fs)).NeverReturns document)
    (hn : (cache.over (index.documents fs)).Within n document) :
    ((index.buildCompound fs document).outcome cache).1 =
      Symbol.ofCompound index.resolve (cache.over (index.documents fs)) n document := by
  have hlimit := h.within (index.finite_innerclasses fs cache document)
    (index.ncard_innerclasses_lt fs cache document)
  have hbuild := fst_outcome_iterate_level hlimit hn fun _ => throw .endlessNesting
  rw [← Symbol.ofCompound_eq_iterate] at hbuild
  rw [buildCompound, Lookup.outcome_bind_ok (Lookup.outcome_get cache)]
  exact hbuild

theorem buildCompound_eq_ok_iff (h : (cache.over (index.documents fs)).NeverReturns document)
    (s : Symbol) :
    ((index.buildCompound fs document).outcome cache).1 = .ok s ↔
      Symbol.Unfolds index.resolve (cache.over (index.documents fs)) document s := by
  have hdepth := h.within (index.finite_innerclasses fs cache document) (Nat.lt_succ_self _)
  rw [fst_outcome_buildCompound h hdepth]
  exact ⟨Symbol.unfolds_of_ofCompound, Symbol.ofCompound_of_unfolds hdepth⟩

variable (index fs cache document)

/-- A chain of inner classes is no longer than the number of different refids, and neither are the
levels that are built: what would come deeper makes no difference. What is built has everything that
is reached, and if anything of that cannot be built, nothing is. -/
theorem buildCompound_unfolds
    (hchains : (cache.over (index.documents fs)).NeverReturns document) :
    let documents := cache.over (index.documents fs)
    let built := fun d => ((index.buildCompound fs d).outcome cache).1
    (documents.innerclasses document).Finite ∧
    (∀ chain, documents.IsNesting document chain →
      chain.length ≤ (documents.innerclasses document).ncard) ∧
    (∀ depth > (documents.innerclasses document).ncard, ∀ deeper,
      (((Symbol.level index.resolve (index.load fs))^[depth] deeper document).outcome cache).1 =
        built document) ∧
    (∀ d, documents.Reaches document d → ∀ s,
      built d = .ok s ↔ Symbol.Unfolds index.resolve documents d s) ∧
    ((∃ s, built document = .ok s) → ∀ d, documents.Reaches document d →
      (∃ t, built d = .ok t) ∧ ∀ refid ∈ innerRefids d, ∃ inner, documents refid = .ok inner) ∧
    ∀ d e member error, documents.Reaches document d → compoundDef d = .ok e →
      member ∈ declarations e → Symbol.ofMember index.resolve member = .error error →
        ∃ error', built document = .error error' := by
  intro documents built
  have hfinite := index.finite_innerclasses fs cache document
  have hiff (d : Element) (hd : documents.Reaches document d) (s : Symbol) :
      built d = .ok s ↔ Symbol.Unfolds index.resolve documents d s :=
    buildCompound_eq_ok_iff (hchains.of_reaches hd) s
  refine ⟨hfinite, fun chain hchain => hchains.length_le hfinite hchain, ?_, hiff, ?_, ?_⟩
  · intro depth hdepth deeper
    have hwithin := hchains.within hfinite hdepth
    rw [fst_outcome_iterate_level hwithin hwithin deeper]
    exact (fst_outcome_buildCompound hchains hwithin).symm
  · rintro ⟨s, hs⟩ d hd
    obtain ⟨t, ht⟩ := Documents.exists_unfolds_of_reaches ((hiff document .refl s).mp hs) hd
    refine ⟨⟨t, (hiff d hd t).mpr ht⟩, fun refid hrefid => ?_⟩
    obtain ⟨inner, -, hload, -⟩ := ht.exists_inner hrefid
    exact ⟨inner, hload⟩
  · intro d e member error hd he hmember herror
    cases hbuilt : built document with
    | error error' => exact ⟨error', rfl⟩
    | ok s =>
      obtain ⟨t, ht⟩ := Documents.exists_unfolds_of_reaches ((hiff document .refl s).mp hbuilt) hd
      obtain ⟨symbol, hsymbol⟩ := ht.exists_member he hmember
      cases herror.symm.trans hsymbol

def structDocument (name : String) (refids macros : List String) : Element :=
  let inner := refids.map fun refid => .mk "innerclass" [("refid", refid)] "" [] ""
  let members := macros.map fun define => .mk "memberdef" [("kind", "define")] ""
    [.mk "name" [] define [] "",
      .mk "location" [("file", "a.h"), ("line", "1"), ("column", "1")] "" [] ""] ""
  .mk "doxygen" [] "" [.mk "compounddef" [("kind", "struct")] ""
    (.mk "compoundname" [] name [] "" :: inner ++ [.mk "sectiondef" [] "" members ""]) ""] ""

def sharedCache : Cache :=
  [("b", structDocument "B" ["c"] ["FIRST"]), ("c", structDocument "C" [] ["LAST"])]

def emptyIndex : Index :=
  ⟨"/x", .mk "doxygenindex" [] "" [] ""⟩

def structSymbol (name : String) (inner : List Symbol) (macros : List String) : Symbol :=
  .compound ⟨.struct, name, name, none, none⟩ (inner ++ macros.map fun define =>
    .define ⟨define, none, none, none, ⟨"a.h", 1, 1⟩⟩)

theorem over_sharedCache {refid : String} {d : Element}
    (h : sharedCache.over (emptyIndex.documents ⟨[], []⟩) refid = .ok d) :
    refid = "b" ∧ d = structDocument "B" ["c"] ["FIRST"] ∨
      refid = "c" ∧ d = structDocument "C" [] ["LAST"] := by
  unfold Cache.over Documents.under at h
  split at h
  · next found hfound =>
    obtain rfl := Except.ok.inj h
    rw [sharedCache, Cache.get?_cons, Cache.get?_cons] at hfound
    split at hfound
    · next hb => exact .inl ⟨hb.symm, (Option.some.inj hfound).symm⟩
    · split at hfound
      · next hc => exact .inr ⟨hc.symm, (Option.some.inj hfound).symm⟩
      · cases hfound
  · obtain ⟨e, he, -⟩ := exists_entry_of_readDocument h
    cases he

theorem acyclic_sharedCache : (sharedCache.over (emptyIndex.documents ⟨[], []⟩)).Acyclic := by
  refine Documents.acyclic_of_rank (fun r => if r = "b" then 1 else 0) ?_
  rintro outer inner ⟨d, hload, hmem⟩
  obtain ⟨rfl, rfl⟩ | ⟨rfl, rfl⟩ := over_sharedCache hload
  · obtain rfl : inner = "c" := List.mem_singleton.mp hmem
    decide
  · cases hmem

theorem buildCompound_unfolds_shared :
    ((emptyIndex.buildCompound ⟨[], []⟩ (structDocument "A" ["b", "c"] ["OUTER"])).outcome
      sharedCache).1 = .ok (structSymbol "A"
        [structSymbol "B" [structSymbol "C" [] ["LAST"]] ["FIRST"], structSymbol "C" [] ["LAST"]]
        ["OUTER"]) := by
  obtain ⟨-, -, -, hunfolds, -⟩ := buildCompound_unfolds emptyIndex ⟨[], []⟩ sharedCache
    (structDocument "A" ["b", "c"] ["OUTER"]) fun chain hchain => hchain.nodup acyclic_sharedCache
  refine (hunfolds _ .refl _).mpr ?_
  exact @Symbol.unfolds_of_ofCompound _ _ 3 _ _ rfl

end Index

end SymbolDocs
