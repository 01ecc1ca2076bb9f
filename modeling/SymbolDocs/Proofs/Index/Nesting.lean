import Mathlib.Data.List.Chain
import Mathlib.Data.List.Nodup
import Mathlib.Logic.Relation
import SymbolDocs.Index
import SymbolDocs.Proofs.Outcome
import SymbolDocs.Proofs.Xml.Size
import SymbolDocs.Proofs.Xml.Weight
/-!
How deep compounds nest. If no compound is inside itself, a chain of inner classes never meets a
refid twice, and each refid in it stands in some document; so the limit on nesting is never reached.
-/

namespace SymbolDocs

open Xml (Element)

abbrev Documents := String → Except Error Element

def innerRefids (document : Element) : List String :=
  match document.child? "compounddef" with
  | none => []
  | some e => (e.childrenNamed "innerclass").filterMap fun child => child.attr? "refid"

namespace Documents

def Inner (documents : Documents) (outer inner : String) : Prop :=
  ∃ document, documents outer = .ok document ∧ inner ∈ innerRefids document

def Acyclic (documents : Documents) : Prop :=
  ∀ refid, ¬Relation.TransGen documents.Inner refid refid

theorem acyclic_of_rank {documents : Documents} (rank : String → Nat)
    (h : ∀ outer inner, documents.Inner outer inner → rank inner < rank outer) :
    documents.Acyclic := by
  have hway {r r' : String} (hr : Relation.TransGen documents.Inner r r') : rank r' < rank r := by
    induction hr with
    | single hstep => exact h _ _ hstep
    | tail _ hstep ih => exact Nat.lt_trans (h _ _ hstep) ih
  exact fun refid hcycle => Nat.lt_irrefl _ (hway hcycle)

def Within (documents : Documents) : (depth : Nat) → Element → Prop
  | 0, _ => False
  | depth + 1, document => ∀ refid ∈ innerRefids document, ∀ inner,
      documents refid = .ok inner → Within documents depth inner

theorem Within.mono {documents : Documents} {m n : Nat} (hmn : m ≤ n) {document : Element}
    (h : documents.Within m document) : documents.Within n document := by
  induction m generalizing n document with
  | zero => exact absurd h id
  | succ m ih =>
    obtain ⟨k, rfl⟩ : ∃ k, n = k + 1 := ⟨n - 1, by omega⟩
    intro refid hrefid inner hinner
    exact ih (Nat.le_of_succ_le_succ hmn) (h refid hrefid inner hinner)

def IsNesting (documents : Documents) (document : Element) (chain : List String) : Prop :=
  (∀ refid ∈ chain.head?, refid ∈ innerRefids document) ∧ chain.IsChain documents.Inner

section Nesting

variable {documents : Documents} {document inner : Element} {refid : String} {chain : List String}

theorem IsNesting.cons (hrefid : refid ∈ innerRefids document)
    (hinner : documents refid = .ok inner) (h : documents.IsNesting inner chain) :
    documents.IsNesting document (refid :: chain) := by
  refine ⟨fun first hfirst => ?_, List.isChain_cons.mpr ⟨fun next hnext => ?_, h.2⟩⟩
  · obtain rfl := Option.some.inj hfirst
    exact hrefid
  · exact ⟨inner, hinner, h.1 next hnext⟩

theorem IsNesting.head_mem (h : documents.IsNesting document (refid :: chain)) :
    refid ∈ innerRefids document :=
  h.1 refid rfl

theorem IsNesting.tail (h : documents.IsNesting document (refid :: chain))
    (hinner : documents refid = .ok inner) : documents.IsNesting inner chain := by
  obtain ⟨hnext, hchain⟩ := List.isChain_cons.mp h.2
  refine ⟨fun next hhead => ?_, hchain⟩
  obtain ⟨inner', hinner', hmem⟩ := hnext next hhead
  obtain rfl := Except.ok.inj (hinner.symm.trans hinner')
  exact hmem

theorem IsNesting.forall_mem {p : String → Prop} (h : documents.IsNesting document chain)
    (hdocument : ∀ r ∈ innerRefids document, p r)
    (hinner : ∀ refid inner, documents refid = .ok inner → ∀ r ∈ innerRefids inner, p r) :
    ∀ r ∈ chain, p r := by
  induction chain generalizing document with
  | nil => nofun
  | cons refid chain ih =>
    refine List.forall_mem_cons.mpr ⟨hdocument refid h.head_mem, fun r hr => ?_⟩
    -- The chain goes on, so there is a document to go on from.
    obtain ⟨next, rest, rfl⟩ := List.exists_cons_of_ne_nil (List.ne_nil_of_mem hr)
    obtain ⟨inner, hload, -⟩ := (List.isChain_cons.mp h.2).1 next rfl
    exact ih (h.tail hload) (hinner refid inner hload) r hr

theorem IsNesting.nodup (hacyclic : documents.Acyclic) (h : documents.IsNesting document chain) :
    chain.Nodup := by
  have hway : chain.Pairwise (Relation.TransGen documents.Inner) :=
    (h.2.imp fun _ _ => Relation.TransGen.single).pairwise
  refine hway.imp fun {r r'} hr heq => ?_
  subst heq
  exact hacyclic r hr

theorem within_of_length {n : Nat}
    (h : ∀ chain, documents.IsNesting document chain → chain.length < n) :
    documents.Within n document := by
  induction n generalizing document with
  | zero => exact absurd (h [] ⟨nofun, .nil⟩) (Nat.not_lt_zero _)
  | succ n ih =>
    intro refid hrefid inner hinner
    refine ih fun chain hchain => ?_
    exact Nat.lt_of_succ_lt_succ (h (refid :: chain) (hchain.cons hrefid hinner))

end Nesting

theorem within_of_acyclic {documents : Documents} (hacyclic : documents.Acyclic)
    {pool : List String}
    (hpool : ∀ refid document, documents refid = .ok document → innerRefids document ⊆ pool)
    {refid : String} {document : Element} (hdocument : documents refid = .ok document) :
    documents.Within (pool.length + 1) document := by
  refine within_of_length fun chain hchain => Nat.lt_succ_of_le ?_
  have hsub : chain ⊆ pool := hchain.forall_mem (hpool refid document hdocument) hpool
  exact (hchain.nodup hacyclic).length_le_of_subset hsub

end Documents

theorem length_innerRefids_le (document : Element) :
    (innerRefids document).length ≤ document.size := by
  unfold innerRefids
  split
  · exact Nat.zero_le _
  · next e he =>
    have hlt := Element.size_lt_of_mem_children (List.mem_of_find?_eq_some he)
    have hlist := List.length_filterMap_le (fun child => child.attr? "refid")
      (e.childrenNamed "innerclass")
    have hnamed : (e.childrenNamed "innerclass").length ≤ e.children.length :=
      List.length_filter_le _ _
    have hchildren := e.length_children_lt
    omega

def Entry.document? : Entry → Option Element
  | .directory => none
  | .file content _ => (Text.ofUtf8? content).bind fun text => (Xml.parseDocument text).toOption

theorem length_le_size_utf8Encode (l : List Char) : l.length ≤ l.utf8Encode.size := by
  induction l with
  | nil => exact Nat.zero_le _
  | cons c l ih =>
    have hpos := c.utf8Size_pos
    have hfirst : [c].utf8Encode.size = c.utf8Size := by simp [List.utf8Encode_singleton]
    rw [List.utf8Encode_cons, ByteArray.size_append, hfirst, List.length_cons]
    omega

theorem length_le_of_ofUtf8? {content : ByteArray} {text : String}
    (h : Text.ofUtf8? content = some text) : text.length ≤ content.size := by
  unfold Text.ofUtf8? String.fromUTF8? at h
  split at h
  · have hle := length_le_size_utf8Encode text.toList
    rw [String.length_toList, String.utf8Encode_toList] at hle
    obtain rfl := Option.some.inj h
    exact hle
  · cases h

theorem size_le_of_document? {content : ByteArray} {executable : Bool} {document : Element}
    (h : Entry.document? (.file content executable) = some document) :
    document.size ≤ content.size := by
  obtain ⟨text, htext, hparse⟩ := Option.bind_eq_some_iff.mp h
  exact Nat.le_trans (Xml.size_le_of_parseDocument (toOption_eq_some.mp hparse))
    (length_le_of_ofUtf8? htext)

theorem exists_entry_of_readDocument {fs : FileSystem} {path : String} {document : Element}
    (h : readDocument fs path = .ok document) :
    ∃ e ∈ fs.entries, e.2.document? = some document := by
  obtain ⟨text, htext, hparse⟩ := bind_eq_ok.mp h
  obtain ⟨bytes, hbytes, hdecode⟩ := bind_eq_ok.mp (mapError_eq_ok.mp htext)
  obtain ⟨entry, hentry, hfile⟩ := bind_eq_ok.mp hbytes
  obtain ⟨there, -, hthere⟩ := bind_eq_ok.mp hentry
  have hutf8 : Text.ofUtf8? bytes = some text := by
    split at hdecode
    · next text' htext' => rw [htext', Except.ok.inj hdecode]
    · cases hdecode
  cases entry with
  | directory => cases hfile
  | file content executable =>
    obtain rfl := Except.ok.inj hfile
    have hfound : fs.entry? there = some (.file content executable) := by
      split at hthere
      · next found hfound => rw [hfound, Except.ok.inj hthere]
      · cases hthere
    obtain ⟨e, he, hcontent⟩ : ∃ e ∈ fs.entries, e.2 = .file content executable := by
      unfold FileSystem.entry? at hfound
      split at hfound
      · cases hfound
      · obtain ⟨e, hfind, he⟩ := Option.map_eq_some_iff.mp hfound
        exact ⟨e, List.mem_of_find?_eq_some hfind, he⟩
    refine ⟨e, he, ?_⟩
    rw [hcontent, Entry.document?, hutf8]
    exact toOption_eq_some.mpr (mapError_eq_ok.mp hparse)

theorem readDocument_eq_ok {fs : FileSystem} {path : String} (text : String) {document : Element}
    (hbytes : fs.readBytes path = .ok text.toUTF8)
    (hparse : Xml.parseDocument text = .ok document) :
    readDocument fs path = .ok document :=
  bind_eq_ok.mpr ⟨text, mapError_eq_ok.mpr (FileSystem.readText_eq_ok hbytes),
    mapError_eq_ok.mpr hparse⟩

theorem Entry.document?_file (text : String) (executable : Bool) :
    Entry.document? (.file text.toUTF8 executable) = (Xml.parseDocument text).toOption := by
  rw [Entry.document?, Text.ofUtf8?_toUTF8]
  rfl

theorem length_flatMap_le {α β : Type} {f : α → List β} {count : Nat → α → Nat}
    (h : ∀ n x, n + (f x).length ≤ count n x) (xs : List α) (n : Nat) :
    n + (xs.flatMap f).length ≤ xs.foldl count n := by
  induction xs generalizing n with
  | nil => exact Nat.le_refl n
  | cons x xs ih =>
    have hfirst := h n x
    have hrest := ih (count n x)
    rw [List.flatMap_cons, List.length_append, List.foldl_cons]
    omega

def Documents.under (documents : Documents) (kept : String → Option Element) : Documents :=
  fun refid => match kept refid with
    | some document => .ok document
    | none => documents refid

def Cache.over (cache : Cache) (documents : Documents) : Documents :=
  documents.under cache.get?

namespace Index

def documents (index : Index) (fs : FileSystem) : Documents := fun refid =>
  readDocument fs (Path.join index.dir (refid ++ ".xml"))

def innerPool (fs : FileSystem) (cache : Cache) : List String :=
  (cache.flatMap fun d => innerRefids d.2) ++
    fs.entries.flatMap fun e => (e.2.document?.map innerRefids).getD []

theorem innerRefids_subset_innerPool {index : Index} {fs : FileSystem} {cache : Cache}
    {refid : String} {document : Element}
    (h : cache.over (index.documents fs) refid = .ok document) :
    innerRefids document ⊆ innerPool fs cache := by
  intro inner hinner
  rw [innerPool, List.mem_append]
  unfold Cache.over Documents.under at h
  split at h
  · next found hfound =>
    obtain rfl := Except.ok.inj h
    obtain ⟨d, hd, rfl⟩ := Option.map_eq_some_iff.mp hfound
    exact .inl (List.mem_flatMap.mpr ⟨d, List.mem_of_find?_eq_some hd, hinner⟩)
  · obtain ⟨e, he, hdocument⟩ := exists_entry_of_readDocument h
    exact .inr (List.mem_flatMap.mpr ⟨e, he, by rw [hdocument]; exact hinner⟩)

theorem length_innerPool_lt (fs : FileSystem) (cache : Cache) (document : Element) :
    (innerRefids document ++ innerPool fs cache).length < nestingLimit fs cache document := by
  have hdocument := length_innerRefids_le document
  have hcache := length_flatMap_le (f := fun d : String × Element => innerRefids d.2)
    (fun n d => Nat.add_le_add_left (length_innerRefids_le d.2) n) cache 0
  have hfiles : (fs.entries.flatMap fun e => (e.2.document?.map innerRefids).getD []).length ≤
      fs.byteCount := by
    have hentry (n : Nat) (e : List String × Entry) :
        n + ((e.2.document?.map innerRefids).getD []).length ≤ match e.2 with
          | .directory => n
          | .file content _ => n + content.size := by
      obtain ⟨place, entry⟩ := e
      cases entry with
      | directory => exact Nat.le_refl n
      | file content executable =>
        cases hdocument : Entry.document? (.file content executable) with
        | none => simp
        | some document =>
          have hsize := size_le_of_document? hdocument
          have hrefids := length_innerRefids_le document
          simp only [Option.map_some, Option.getD_some]
          omega
    have hall := length_flatMap_le hentry fs.entries 0
    rw [Nat.zero_add] at hall
    exact hall
  rw [List.length_append, innerPool, List.length_append, nestingLimit]
  omega

theorem within_nestingLimit {index : Index} {fs : FileSystem} {cache : Cache}
    (hacyclic : (cache.over (index.documents fs)).Acyclic) {refid : String} {document : Element}
    (hdocument : cache.over (index.documents fs) refid = .ok document) (d : Element) :
    (cache.over (index.documents fs)).Within (nestingLimit fs cache d) document := by
  have hlimit := length_innerPool_lt fs cache d
  rw [List.length_append] at hlimit
  exact (Documents.within_of_acyclic hacyclic (fun _ _ => innerRefids_subset_innerPool)
    hdocument).mono (by omega)

end Index

end SymbolDocs
