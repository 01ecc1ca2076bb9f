import SymbolDocs.Proofs.Index.Loading
import SymbolDocs.Proofs.Index.Reading

namespace SymbolDocs

open Xml (Element)

variable {α β : Type}

structure Adds (documents : Documents) (cache cache' : Cache) (loaded : List String) : Prop where
  get? : ∀ refid, cache'.get? refid = (cache.get? refid).or
    (if refid ∈ loaded then (documents refid).toOption else none)
  kept : ∀ refid ∈ loaded, (cache'.get? refid).isSome

theorem Adds.refl (documents : Documents) (cache : Cache) : Adds documents cache cache [] :=
  ⟨fun refid => by simp, nofun⟩

theorem Adds.trans {documents : Documents} {cache cache' cache'' : Cache}
    {loaded loaded' : List String} (h : Adds documents cache cache' loaded)
    (h' : Adds documents cache' cache'' loaded') :
    Adds documents cache cache'' (loaded ++ loaded') := by
  constructor
  · intro refid
    rw [h'.get?, h.get?, Option.or_assoc]
    congr 1
    by_cases hfirst : refid ∈ loaded
    · by_cases hlast : refid ∈ loaded' <;> simp [hfirst, hlast]
    · simp [hfirst]
  · intro refid hrefid
    rw [h'.get?, Option.isSome_or, Bool.or_eq_true]
    rcases List.mem_append.mp hrefid with hrefid | hrefid
    · exact .inl (h.kept refid hrefid)
    · have hkept := h'.kept refid hrefid
      rwa [h'.get?, Option.isSome_or, Bool.or_eq_true] at hkept

theorem Adds.over_eq {documents : Documents} {cache cache' : Cache} {loaded : List String}
    (h : Adds documents cache cache' loaded) :
    cache'.over documents = cache.over documents := by
  funext refid
  have hget := h.get? refid
  unfold Cache.over Documents.under
  cases hcache : cache.get? refid with
  | some document => rw [hget, hcache, Option.some_or]
  | none =>
    rw [hget, hcache, Option.none_or]
    by_cases hloaded : refid ∈ loaded
    · cases hdocument : documents refid <;> simp [hloaded, Except.toOption]
    · simp [hloaded]

/-- Over any cache that lets the documents be seen as `seen`, the look-up `x` gives what `y` gives,
and keeps what `y` notes. -/
def Mirrors (documents seen : Documents) (x : Lookup α) (y : Reading α) : Prop :=
  ∀ cache noted, cache.over documents = seen → ∃ result cache' loaded,
    Lookup.outcome x cache = (result, cache') ∧
      Reading.outcome y noted = (result, noted ++ loaded) ∧ Adds documents cache cache' loaded

section Mirrors

variable {documents seen : Documents}

theorem mirrors_pure (a : α) : Mirrors documents seen (pure a) (pure a) := by
  intro cache noted _
  exact ⟨.ok a, cache, [], rfl, by rw [List.append_nil]; rfl, Adds.refl documents cache⟩

theorem mirrors_ofExcept (x : Except Error α) :
    Mirrors documents seen (MonadExcept.ofExcept x) (MonadExcept.ofExcept x) := by
  intro cache noted _
  refine ⟨x, cache, [], Lookup.outcome_ofExcept x cache, ?_, Adds.refl documents cache⟩
  rw [List.append_nil]
  cases x <;> rfl

theorem mirrors_throw (e : Error) : Mirrors documents seen (throw e : Lookup α) (throw e) :=
  mirrors_ofExcept (.error e)

theorem Mirrors.bind_of {x : Lookup α} {y : Reading α} {f : α → Lookup β} {g : α → Reading β}
    (h : Mirrors documents seen x y)
    (hf : ∀ a noted noted', Reading.outcome y noted = (.ok a, noted') →
      Mirrors documents seen (f a) (g a)) :
    Mirrors documents seen (x >>= f) (y >>= g) := by
  intro cache noted hseen
  obtain ⟨result, cache', loaded, hx, hy, hadds⟩ := h cache noted hseen
  cases result with
  | error e =>
    exact ⟨.error e, cache', loaded, Lookup.outcome_bind_error hx f,
      Reading.outcome_bind_error hy g, hadds⟩
  | ok a =>
    obtain ⟨result, cache'', loaded', hfa, hga, hadds'⟩ :=
      hf a _ _ hy cache' (noted ++ loaded) (hadds.over_eq.trans hseen)
    refine ⟨result, cache'', loaded ++ loaded', ?_, ?_, hadds.trans hadds'⟩
    · rw [Lookup.outcome_bind_ok hx, hfa]
    · rw [Reading.outcome_bind_ok hy, hga, List.append_assoc]

theorem Mirrors.bind {x : Lookup α} {y : Reading α} {f : α → Lookup β} {g : α → Reading β}
    (h : Mirrors documents seen x y) (hf : ∀ a, Mirrors documents seen (f a) (g a)) :
    Mirrors documents seen (x >>= f) (y >>= g) :=
  h.bind_of fun a _ _ _ => hf a

theorem Mirrors.map {x : Lookup α} {y : Reading α} (h : Mirrors documents seen x y) (f : α → β) :
    Mirrors documents seen (f <$> x) (f <$> y) := by
  rw [map_eq_pure_bind, map_eq_pure_bind]
  exact h.bind fun a => mirrors_pure (f a)

theorem Mirrors.mapM {f : α → Lookup β} {g : α → Reading β} {xs : List α}
    (h : ∀ x ∈ xs, Mirrors documents seen (f x) (g x)) :
    Mirrors documents seen (xs.mapM f) (xs.mapM g) := by
  induction xs with
  | nil => exact mirrors_pure []
  | cons x xs ih =>
    rw [List.forall_mem_cons] at h
    rw [List.mapM_cons, List.mapM_cons]
    exact h.1.bind fun y => (ih h.2).bind fun ys => mirrors_pure (y :: ys)

end Mirrors

theorem Cache.get?_cons (cache : Cache) (refid other : String) (document : Element) :
    Cache.get? ((refid, document) :: cache) other =
      if refid = other then some document else cache.get? other := by
  by_cases h : refid = other <;> simp [Cache.get?, h]

theorem adds_cons {documents : Documents} {cache : Cache} {refid : String} {document : Element}
    (hcache : cache.get? refid = none) (hdocument : documents refid = .ok document) :
    Adds documents cache ((refid, document) :: cache) [refid] := by
  constructor
  · intro other
    rw [Cache.get?_cons]
    by_cases h : refid = other
    · subst h
      simp [hcache, hdocument, Except.toOption]
    · simp [h, Ne.symm h]
  · intro other hother
    obtain rfl := List.mem_singleton.mp hother
    rw [Cache.get?_cons, if_pos rfl]
    rfl

theorem adds_self {documents : Documents} {cache : Cache} {refid : String} {document : Element}
    (hcache : cache.get? refid = some document) : Adds documents cache cache [refid] := by
  constructor
  · intro other
    by_cases h : other = refid
    · subst h
      simp [hcache]
    · simp [h]
  · intro other hother
    obtain rfl := List.mem_singleton.mp hother
    rw [hcache]
    rfl

namespace Index

variable (index : Index) (fs : FileSystem)

theorem mirrors_load (seen : Documents) (refid : String) :
    Mirrors (index.documents fs) seen (index.load fs refid) (seen.load refid) := by
  rintro cache noted rfl
  cases hcache : cache.get? refid with
  | some document =>
    have hseen : cache.over (index.documents fs) refid = .ok document := by
      rw [Cache.over, Documents.under, hcache]
    refine ⟨.ok document, cache, [refid], index.outcome_load_of_kept fs hcache, ?_,
      adds_self hcache⟩
    rw [Documents.load, hseen]
    rfl
  | none =>
    have hseen : cache.over (index.documents fs) refid = index.documents fs refid := by
      rw [Cache.over, Documents.under, hcache]
    cases hdocument : index.documents fs refid with
    | error e =>
      refine ⟨.error e, cache, [], index.outcome_load_of_error fs hcache hdocument, ?_,
        Adds.refl _ cache⟩
      rw [Documents.load, hseen, hdocument, List.append_nil]
      rfl
    | ok document =>
      refine ⟨.ok document, (refid, document) :: cache, [refid],
        index.outcome_load_of_ok fs hcache hdocument, ?_, adds_cons hcache hdocument⟩
      rw [Documents.load, hseen, hdocument]
      rfl

theorem mirrors_ofCompound (seen : Documents) (depth : Nat) (document : Element) :
    Mirrors (index.documents fs) seen
      (Symbol.ofCompound index.resolve (index.load fs) depth document)
      (Symbol.ofCompound index.resolve seen.load depth document) := by
  induction depth generalizing document with
  | zero => exact mirrors_throw .endlessNesting
  | succ depth ih =>
    rw [Symbol.ofCompound, Symbol.ofCompound]
    refine (mirrors_ofExcept _).bind fun e => (mirrors_ofExcept _).bind fun head => ?_
    refine (Mirrors.mapM fun child _ => ?_).bind fun inner => ?_
    · refine (mirrors_ofExcept _).bind fun refid => ?_
      exact (index.mirrors_load fs seen refid).bind fun next => ih next
    · refine (mirrors_ofExcept _).bind fun members => ?_
      refine (mirrors_ofExcept _).bind fun description => ?_
      exact (mirrors_ofExcept _).bind fun location => mirrors_pure _

theorem mirrors_buildCompound {seen : Documents} (hacyclic : seen.Acyclic) {depth : Nat}
    {refid : String} {document : Element} (hdocument : seen refid = .ok document)
    (hdepth : seen.Within depth document) :
    Mirrors (index.documents fs) seen (index.buildCompound fs document)
      (Symbol.ofCompound index.resolve seen.load depth document) := by
  rintro cache noted rfl
  -- The limit depends on the cache, but what is built does not depend on the limit.
  have hlimit := within_nestingLimit hacyclic hdocument document
  rw [buildCompound, Lookup.outcome_bind_ok (Lookup.outcome_get cache),
    Documents.ofCompound_eq_of_within index.resolve hdepth hlimit]
  exact index.mirrors_ofCompound fs _ _ document cache noted rfl

def collectFrom {m : Type → Type} [Monad m] [MonadExceptOf Error m] (load : String → m Element)
    (build : Element → m Symbol) (identifier : String) : m Symbol := do
  let (scope, name) ← MonadExcept.ofExcept (splitScope identifier)
  match ← MonadExcept.ofExcept (index.memberRefids scope name) with
  | [] =>
    match index.compounds.filter (hasName · identifier) with
    | [] => throw (.unknownIdentifier identifier)
    | [compound] =>
      let refid ← MonadExcept.ofExcept (requiredAttr compound "compound" "refid")
      build (← load refid)
    | _ => throw (.ambiguousIdentifier identifier)
  | [refid] =>
    let owner ← MonadExcept.ofExcept (owningCompound refid)
    let document ← load owner
    let compound ← MonadExcept.ofExcept (compoundDef document)
    let member ← MonadExcept.ofExcept (locateMember compound name identifier)
    MonadExcept.ofExcept (Symbol.ofMember index.resolve member)
  | _ => throw (.ambiguousIdentifier identifier)

theorem collect_eq_collectFrom (identifier : String) :
    index.collect fs identifier =
      index.collectFrom (index.load fs) (index.buildCompound fs) identifier := rfl

def collectAfresh (documents : Documents) (depth : Nat) (identifier : String) : Reading Symbol :=
  index.collectFrom documents.load (Symbol.ofCompound index.resolve documents.load depth) identifier

theorem mirrors_collect {seen : Documents} (hacyclic : seen.Acyclic) {depth : Nat}
    (hdepth : ∀ refid document, seen refid = .ok document → seen.Within depth document)
    (identifier : String) :
    Mirrors (index.documents fs) seen (index.collect fs identifier)
      (index.collectAfresh seen depth identifier) := by
  rw [collect_eq_collectFrom, collectAfresh, collectFrom, collectFrom]
  refine (mirrors_ofExcept _).bind fun (scope, name) => (mirrors_ofExcept _).bind fun refids => ?_
  match refids with
  | [] =>
    dsimp only
    generalize index.compounds.filter (hasName · identifier) = compounds
    match compounds with
    | [] => exact mirrors_throw _
    | [compound] =>
      refine (mirrors_ofExcept _).bind fun refid => ?_
      refine (index.mirrors_load fs seen refid).bind_of fun document noted noted' hload => ?_
      have hdocument : seen refid = .ok document := by
        rw [← seen.fst_outcome_load refid noted, hload]
      exact index.mirrors_buildCompound fs hacyclic hdocument (hdepth refid document hdocument)
    | _ :: _ :: _ => exact mirrors_throw _
  | [refid] =>
    refine (mirrors_ofExcept _).bind fun owner => ?_
    refine (index.mirrors_load fs seen owner).bind fun document => ?_
    refine (mirrors_ofExcept _).bind fun compound => (mirrors_ofExcept _).bind fun member => ?_
    exact mirrors_ofExcept _
  | _ :: _ :: _ => exact mirrors_throw _

end Index

end SymbolDocs
