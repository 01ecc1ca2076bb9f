import SymbolDocs.Proofs.Index.Lookup
import SymbolDocs.Proofs.Index.Nesting

namespace SymbolDocs

open Xml (Element)

/-- A look-up that notes the refids of the documents that it has got, and keeps none. -/
abbrev Reading := ExceptT Error (StateM (List String))

namespace Reading

variable {α β : Type}

def outcome (x : Reading α) (noted : List String) : Except Error α × List String :=
  x.run.run noted

theorem outcome_bind_ok {x : Reading α} {noted noted' : List String} {a : α}
    (h : outcome x noted = (.ok a, noted')) (f : α → Reading β) :
    outcome (x >>= f) noted = outcome (f a) noted' :=
  run_bind_ok h f

theorem outcome_bind_error {x : Reading α} {noted noted' : List String} {e : Error}
    (h : outcome x noted = (.error e, noted')) (f : α → Reading β) :
    outcome (x >>= f) noted = (.error e, noted') :=
  run_bind_error h f

end Reading

theorem ofExcept_bind_congr {α β : Type} {x : Except Error α} {f g : α → Reading β}
    (h : ∀ a, x = .ok a → f a = g a) :
    (MonadExcept.ofExcept x : Reading α) >>= f = MonadExcept.ofExcept x >>= g := by
  cases x with
  | error e => rfl
  | ok a => exact h a rfl

theorem mapM_congr {α β : Type} {f g : α → Reading β} {xs : List α} (h : ∀ x ∈ xs, f x = g x) :
    xs.mapM f = xs.mapM g := by
  induction xs with
  | nil => rfl
  | cons x xs ih =>
    rw [List.forall_mem_cons] at h
    rw [List.mapM_cons, List.mapM_cons, h.1, ih h.2]

namespace Documents

def load (documents : Documents) (refid : String) : Reading Element := do
  let document ← MonadExcept.ofExcept (documents refid)
  modify (· ++ [refid])
  return document

theorem fst_outcome_load (documents : Documents) (refid : String) (noted : List String) :
    (Reading.outcome (documents.load refid) noted).1 = documents refid := by
  unfold load
  cases documents refid <;> rfl

theorem load_bind_congr {α : Type} {documents : Documents} {refid : String}
    {f g : Element → Reading α} (h : ∀ d, documents refid = .ok d → f d = g d) :
    documents.load refid >>= f = documents.load refid >>= g := by
  rw [load, bind_assoc, bind_assoc]
  refine ofExcept_bind_congr fun document hdocument => ?_
  rw [bind_assoc, bind_assoc]
  exact bind_congr fun _ => h document hdocument

theorem innerRefids_of_compoundDef {document e : Element} (he : compoundDef document = .ok e) :
    innerRefids document =
      (e.childrenNamed "innerclass").filterMap fun child => child.attr? "refid" := by
  have hdef : document.child? "compounddef" = some e := by
    unfold compoundDef at he
    split at he
    · next e' he' => rw [he', Except.ok.inj he]
    · cases he
  rw [innerRefids, hdef]

theorem mem_innerRefids {document e child : Element} {refid : String}
    (he : compoundDef document = .ok e) (hchild : child ∈ e.childrenNamed "innerclass")
    (hrefid : requiredAttr child "innerclass" "refid" = .ok refid) :
    refid ∈ innerRefids document := by
  rw [requiredAttr_eq_ok_iff] at hrefid
  rw [innerRefids_of_compoundDef he]
  exact List.mem_filterMap.mpr ⟨child, hchild, hrefid⟩

theorem ofCompound_eq_of_within {documents : Documents} (resolve : Resolver) {m n : Nat}
    {document : Element} (hm : documents.Within m document) (hn : documents.Within n document) :
    Symbol.ofCompound resolve documents.load m document =
      Symbol.ofCompound resolve documents.load n document := by
  induction m generalizing n document with
  | zero => exact absurd hm id
  | succ m ih =>
    cases n with
    | zero => exact absurd hn id
    | succ n =>
      rw [Symbol.ofCompound, Symbol.ofCompound]
      refine ofExcept_bind_congr fun e he => bind_congr fun head => ?_
      congr 1
      refine mapM_congr fun child hchild => ofExcept_bind_congr fun refid hrefid => ?_
      have hmem := mem_innerRefids he hchild hrefid
      exact load_bind_congr fun inner hinner =>
        ih (hm refid hmem inner hinner) (hn refid hmem inner hinner)

end Documents

end SymbolDocs
