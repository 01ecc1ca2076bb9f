import Mathlib.Data.Set.Subsingleton
import SymbolDocs.Index
import SymbolDocs.Proofs.Outcome
import SymbolDocs.Proofs.Text.Cut

namespace SymbolDocs.Index

open Xml (Element)

def HasSeparator (s : String) : Prop :=
  [':', ':'] <:+: s.toList

inductive Splits (identifier : String) : Option String → String → Prop
  | bare (h : ¬HasSeparator identifier) : Splits identifier none identifier
  | qualified {scope name : String} (h : identifier = scope ++ "::" ++ name)
      (hfirst : ¬HasSeparator (scope ++ ":")) : Splits identifier (some scope) name

theorem splits_qualified_iff (identifier scope name : String) :
    Splits identifier (some scope) name ↔
      Text.cutAtPair ':' ':' identifier.toList = some (scope.toList, name.toList) := by
  rw [Text.cutAtPair_eq_some_iff]
  constructor
  · intro hs
    cases hs with
    | qualified h hfirst =>
      refine ⟨by rw [h]; simp [String.toList_append], ?_⟩
      simpa [HasSeparator, String.toList_append] using hfirst
  · rintro ⟨h, hfirst⟩
    refine .qualified ?_ (by simpa [HasSeparator, String.toList_append] using hfirst)
    rw [← String.toList_inj, h]
    simp [String.toList_append]

theorem splits_bare_iff (identifier name : String) :
    Splits identifier none name ↔
      name = identifier ∧ Text.cutAtPair ':' ':' identifier.toList = none := by
  rw [Text.cutAtPair_eq_none_iff]
  constructor
  · intro hs
    cases hs with
    | bare h => exact ⟨rfl, h⟩
  · rintro ⟨rfl, h⟩
    exact .bare h

theorem hasSeparator_iff (s : String) :
    HasSeparator s ↔ (Text.cutAtPair ':' ':' s.toList).isSome = true := by
  rw [Option.isSome_iff_ne_none, ne_eq, Text.cutAtPair_eq_none_iff, not_not]
  rfl

theorem splitScope_of_splits {identifier name : String} {scope : Option String}
    (h : Splits identifier scope name) (hn : ¬HasSeparator name) :
    splitScope identifier = .ok (scope, name) := by
  cases scope with
  | none =>
    obtain ⟨rfl, hcut⟩ := (splits_bare_iff identifier name).mp h
    rw [splitScope, hcut]
  | some scope =>
    rw [hasSeparator_iff] at hn
    simp [splitScope, (splits_qualified_iff identifier scope name).mp h, hn]

-- Of three colons the first two are the separator.
example : splitScope "a:::b" = .ok (some "a", ":b") := by decide +kernel

theorem splitScope_of_nested {identifier scope name : String}
    (h : Splits identifier (some scope) name) (hn : HasSeparator name) :
    splitScope identifier = .error (.nestedScope identifier) := by
  rw [hasSeparator_iff] at hn
  simp [splitScope, (splits_qualified_iff identifier scope name).mp h, hn]

theorem exists_splits (identifier : String) : ∃ scope name, Splits identifier scope name := by
  cases h : Text.cutAtPair ':' ':' identifier.toList with
  | none => exact ⟨none, identifier, (splits_bare_iff _ _).mpr ⟨rfl, h⟩⟩
  | some parts =>
    refine ⟨some (String.ofList parts.1), String.ofList parts.2, (splits_qualified_iff _ _ _).mpr ?_⟩
    rw [h, String.toList_ofList, String.toList_ofList]

/-- The refid of a compound that owns a member: what stands before the last underscore of the
member's refid, unless that is nothing. -/
def Owns (owner refid : String) : Prop :=
  owner ≠ "" ∧ ∃ suffix, refid = owner ++ "_" ++ suffix ∧ '_' ∉ suffix.toList

theorem owningCompound_eq_ok_iff (refid owner : String) :
    owningCompound refid = .ok owner ↔ Owns owner refid := by
  unfold owningCompound
  constructor
  · intro h
    split at h
    · next c cs suffix hcut =>
      obtain ⟨hr, hs⟩ := (Text.cutAtLast_eq_some_iff _ _ _ _).mp hcut
      obtain rfl := Except.ok.inj h
      refine ⟨?_, String.ofList suffix, ?_, by rwa [String.toList_ofList]⟩
      · rw [ne_eq, ← String.toList_inj]
        simp
      · rw [← String.toList_inj, hr]
        simp [String.toList_append]
    · cases h
  · rintro ⟨hne, suffix, rfl, hs⟩
    have hcut : Text.cutAtLast '_' (owner ++ "_" ++ suffix).toList =
        some (owner.toList, suffix.toList) := by
      rw [Text.cutAtLast_eq_some_iff]
      exact ⟨by simp [String.toList_append], hs⟩
    rw [hcut]
    cases ho : owner.toList with
    | nil => exact absurd (String.toList_inj.mp (ho.trans String.toList_empty.symm)) hne
    | cons c cs => simp only [← ho, String.ofList_toList]

theorem owningCompound_of_not_owns {refid : String} (h : ∀ owner, ¬Owns owner refid) :
    owningCompound refid = .error (.invalidRefid refid) := by
  cases ho : owningCompound refid with
  | ok owner => exact absurd ((owningCompound_eq_ok_iff refid owner).mp ho) (h owner)
  | error e =>
    unfold owningCompound at ho
    split at ho
    · cases ho
    · exact ho ▸ rfl

def Named (e : Element) (name : String) : Prop :=
  ∃ n, e.child? "name" = some n ∧ Text.trim n.text = name

theorem hasName_iff (e : Element) (name : String) : hasName e name = true ↔ Named e name := by
  unfold hasName Named
  cases e.child? "name" <;> simp

def Lists (index : Index) (scope : Option String) (name : String) (m : Element) : Prop :=
  ∃ c ∈ index.root.children, c.name = "compound" ∧ (∀ s, scope = some s → Named c s) ∧
    m ∈ c.children ∧ m.name = "member" ∧ Named m name

theorem inScope_iff (scope : Option String) (c : Element) :
    inScope scope c = true ↔ ∀ s, scope = some s → Named c s := by
  cases scope <;> simp [inScope, hasName_iff]

theorem mem_membersNamed_iff (index : Index) (scope : Option String) (name : String) (m : Element) :
    m ∈ index.membersNamed scope name ↔ index.Lists scope name m := by
  simp only [membersNamed, compounds, Element.childrenNamed, List.mem_flatMap, List.mem_filter,
    beq_iff_eq, inScope_iff, hasName_iff, Lists, and_assoc]

def refids (index : Index) (scope : Option String) (name : String) : Set String :=
  {r | ∃ m, index.Lists scope name m ∧ m.attr? "refid" = some r}

theorem ne_of_eraseDups {l t : List String} {a b : String} (h : l.eraseDups = a :: b :: t) :
    a ≠ b := by
  cases l with
  | nil => simp at h
  | cons x xs =>
    rw [List.eraseDups_cons] at h
    obtain ⟨rfl, ht⟩ := List.cons.inj h
    have hb : b ∈ (xs.filter fun y => !y == x).eraseDups := ht ▸ List.mem_cons_self
    rw [List.mem_eraseDups, List.mem_filter] at hb
    rintro rfl
    simp at hb

theorem memberRefids_of_missing {index : Index} {scope : Option String} {name : String}
    {m : Element} (hm : index.Lists scope name m) (hr : m.attr? "refid" = none) :
    index.memberRefids scope name = .error (.missingField "member" "refid") := by
  cases h : (index.membersNamed scope name).mapM fun m => requiredAttr m "member" "refid" with
  | ok rs =>
    obtain ⟨r, -, hmr⟩ := exists_mem_of_mapM h ((mem_membersNamed_iff _ _ _ _).mpr hm)
    rw [requiredAttr_of_none hr] at hmr
    cases hmr
  | error e =>
    obtain ⟨m', -, hm'⟩ := exists_error_of_mapM h
    have he : e = .missingField "member" "refid" := by
      unfold requiredAttr at hm'
      split at hm'
      · cases hm'
      · exact (Except.error.inj hm').symm
    rw [memberRefids, h, he]
    rfl

theorem memberRefids_of_refids {index : Index} {scope : Option String} {name : String}
    (h : ∀ m, index.Lists scope name m → m.attr? "refid" ≠ none) :
    ∃ rs, index.memberRefids scope name = .ok rs ∧ (∀ r, r ∈ rs ↔ r ∈ index.refids scope name) ∧
      ∀ a b t, rs = a :: b :: t → a ≠ b := by
  cases hrs : (index.membersNamed scope name).mapM fun m => requiredAttr m "member" "refid" with
  | error e =>
    obtain ⟨m, hm, hme⟩ := exists_error_of_mapM hrs
    obtain ⟨r, hr⟩ := Option.ne_none_iff_exists'.mp (h m ((mem_membersNamed_iff _ _ _ _).mp hm))
    rw [(requiredAttr_eq_ok_iff m "member" "refid" r).mpr hr] at hme
    cases hme
  | ok rs =>
    refine ⟨rs.eraseDups, by rw [memberRefids, hrs]; rfl, ?_, fun a b t => ne_of_eraseDups⟩
    intro r
    rw [List.mem_eraseDups]
    constructor
    · intro hr
      obtain ⟨m, hm, hmr⟩ := exists_of_mem_mapM hrs hr
      exact ⟨m, (mem_membersNamed_iff _ _ _ _).mp hm, (requiredAttr_eq_ok_iff _ _ _ _).mp hmr⟩
    · rintro ⟨m, hm, hmr⟩
      obtain ⟨r', hr', hmr'⟩ := exists_mem_of_mapM hrs ((mem_membersNamed_iff _ _ _ _).mpr hm)
      rw [requiredAttr_eq_ok_iff, hmr, Option.some_inj] at hmr'
      exact hmr' ▸ hr'

end SymbolDocs.Index
