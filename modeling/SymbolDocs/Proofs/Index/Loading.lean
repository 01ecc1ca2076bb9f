import SymbolDocs.Proofs.Index.Lookup
import SymbolDocs.Proofs.Index.Nesting

namespace SymbolDocs

open Xml (Element)

inductive Stored (fs : FileSystem) (path : String) : Except Error Element → Prop
  | unreadable {cause : OsError} (hread : fs.readText path = .error cause) :
      Stored fs path (.error (.io cause))
  | malformed {text : String} {fault : Xml.Fault} (hread : fs.readText path = .ok text)
      (hparse : Xml.parseDocument text = .error fault) : Stored fs path (.error (.xmlFile path fault))
  | parsed {text : String} {document : Element} (hread : fs.readText path = .ok text)
      (hparse : Xml.parseDocument text = .ok document) : Stored fs path (.ok document)

theorem readDocument_eq_iff {fs : FileSystem} {path : String} {r : Except Error Element} :
    readDocument fs path = r ↔ Stored fs path r := by
  constructor
  · rintro rfl
    cases hread : fs.readText path with
    | error cause =>
      rw [readDocument, hread]
      exact .unreadable hread
    | ok text =>
      have hdocument : readDocument fs path =
          (Xml.parseDocument text).mapError (.xmlFile path) := by
        rw [readDocument, hread]
        rfl
      rw [hdocument]
      cases hparse : Xml.parseDocument text with
      | error fault => exact .malformed hread hparse
      | ok document => exact .parsed hread hparse
  · intro h
    cases h with
    | unreadable hread =>
      rw [readDocument, hread]
      rfl
    | malformed hread hparse | parsed hread hparse =>
      rw [readDocument, hread]
      change (Xml.parseDocument _).mapError _ = _
      rw [hparse]
      rfl

theorem Cache.get?_eq_none_iff {cache : Cache} {refid : String} :
    cache.get? refid = none ↔ ∀ d ∈ cache, d.1 ≠ refid := by
  simp [Cache.get?]

theorem Cache.get?_eq_some_iff {cache : Cache} {refid : String} {document : Element} :
    cache.get? refid = some document ↔ ∃ before after, cache = before ++ (refid, document) :: after ∧
      ∀ d ∈ before, d.1 ≠ refid := by
  rw [Cache.get?, Option.map_eq_some_iff]
  constructor
  · rintro ⟨d, hd, rfl⟩
    obtain ⟨hrefid, before, after, hcache, hbefore⟩ := List.find?_eq_some_iff_append.mp hd
    obtain rfl := beq_iff_eq.mp hrefid
    exact ⟨before, after, hcache, by simpa using hbefore⟩
  · rintro ⟨before, after, hcache, hbefore⟩
    refine ⟨(refid, document), List.find?_eq_some_iff_append.mpr ?_, rfl⟩
    exact ⟨beq_self_eq_true refid, before, after, hcache, by simpa using hbefore⟩

namespace Index

variable (index : Index) (fs : FileSystem)

theorem outcome_load_of_kept {cache : Cache} {refid : String} {document : Element}
    (h : cache.get? refid = some document) :
    (index.load fs refid).outcome cache = (.ok document, cache) := by
  rw [load, Lookup.outcome_bind_ok (Lookup.outcome_get cache), h]
  rfl

theorem outcome_load_of_ok {cache : Cache} {refid : String} {document : Element}
    (hcache : cache.get? refid = none) (hdocument : index.documents fs refid = .ok document) :
    (index.load fs refid).outcome cache = (.ok document, (refid, document) :: cache) := by
  rw [load, Lookup.outcome_bind_ok (Lookup.outcome_get cache), hcache]
  exact Lookup.outcome_bind_ok (hdocument ▸ Lookup.outcome_ofExcept _ cache) _

theorem outcome_load_of_error {cache : Cache} {refid : String} {e : Error}
    (hcache : cache.get? refid = none) (hdocument : index.documents fs refid = .error e) :
    (index.load fs refid).outcome cache = (.error e, cache) := by
  rw [load, Lookup.outcome_bind_ok (Lookup.outcome_get cache), hcache]
  exact Lookup.outcome_bind_error (hdocument ▸ Lookup.outcome_ofExcept _ cache) _

def documentPath (refid : String) : String :=
  if index.dir = "" ∨ refid.toList.head? = some '/' then refid ++ ".xml"
  else if index.dir.toList.getLast? = some '/' then index.dir ++ refid ++ ".xml"
  else index.dir ++ "/" ++ refid ++ ".xml"

theorem join_eq_documentPath (refid : String) :
    Path.join index.dir (refid ++ ".xml") = index.documentPath refid := by
  have habsolute : Path.isAbsolute (refid ++ ".xml") = true ↔ refid.toList.head? = some '/' := by
    cases h : refid.toList <;> simp [Path.isAbsolute, h]
  unfold Path.join documentPath
  by_cases hdir : index.dir = ""
  · simp [hdir]
  · by_cases hrefid : refid.toList.head? = some '/'
    · simp [habsolute, hrefid]
    · simp [habsolute, hrefid, hdir, Path.endsInSlash, String.append_assoc]

/-- A document that is kept is given as it is. Another one is read, and kept from then on if that
succeeds. -/
inductive Loads (cache : Cache) (refid : String) : Except Error Element × Cache → Prop
  | kept {before after : Cache} {document : Element}
      (hcache : cache = before ++ (refid, document) :: after) (hfirst : ∀ d ∈ before, d.1 ≠ refid) :
      Loads cache refid (.ok document, cache)
  | failed {e : Error} (hnew : ∀ d ∈ cache, d.1 ≠ refid)
      (hfile : Stored fs (index.documentPath refid) (.error e)) : Loads cache refid (.error e, cache)
  | read {document : Element} (hnew : ∀ d ∈ cache, d.1 ≠ refid)
      (hfile : Stored fs (index.documentPath refid) (.ok document)) :
      Loads cache refid (.ok document, (refid, document) :: cache)

theorem documents_eq_iff {refid : String} {r : Except Error Element} :
    index.documents fs refid = r ↔ Stored fs (index.documentPath refid) r := by
  rw [documents, join_eq_documentPath, readDocument_eq_iff]

theorem outcome_load_eq_iff (cache : Cache) (refid : String) (o : Except Error Element × Cache) :
    (index.load fs refid).outcome cache = o ↔ Loads index fs cache refid o := by
  constructor
  · rintro rfl
    cases hcache : cache.get? refid with
    | some document =>
      obtain ⟨before, after, hsplit, hfirst⟩ := Cache.get?_eq_some_iff.mp hcache
      rw [outcome_load_of_kept index fs hcache]
      exact .kept hsplit hfirst
    | none =>
      have hnew := Cache.get?_eq_none_iff.mp hcache
      cases hdocument : index.documents fs refid with
      | error e =>
        rw [outcome_load_of_error index fs hcache hdocument]
        exact .failed hnew ((documents_eq_iff index fs).mp hdocument)
      | ok document =>
        rw [outcome_load_of_ok index fs hcache hdocument]
        exact .read hnew ((documents_eq_iff index fs).mp hdocument)
  · intro h
    cases h with
    | kept hcache hfirst =>
      exact outcome_load_of_kept index fs (Cache.get?_eq_some_iff.mpr ⟨_, _, hcache, hfirst⟩)
    | failed hnew hfile =>
      exact outcome_load_of_error index fs (Cache.get?_eq_none_iff.mpr hnew)
        ((documents_eq_iff index fs).mpr hfile)
    | read hnew hfile =>
      exact outcome_load_of_ok index fs (Cache.get?_eq_none_iff.mpr hnew)
        ((documents_eq_iff index fs).mpr hfile)

variable {index fs} in
theorem Loads.outcome_eq {cache : Cache} {refid : String} {o : Except Error Element × Cache}
    (h : Loads index fs cache refid o) : (index.load fs refid).outcome cache = o :=
  (outcome_load_eq_iff index fs cache refid o).mpr h

theorem exists_loads (cache : Cache) (refid : String) : ∃ o, Loads index fs cache refid o :=
  ⟨_, (outcome_load_eq_iff index fs cache refid _).mp rfl⟩

end Index

end SymbolDocs
