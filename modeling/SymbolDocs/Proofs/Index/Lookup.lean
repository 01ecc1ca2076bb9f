import SymbolDocs.Index
import SymbolDocs.Proofs.Outcome

namespace SymbolDocs.Lookup

variable {α β : Type}

def outcome (x : Lookup α) (cache : Cache) : Except Error α × Cache :=
  x.run.run cache

@[simp] theorem outcome_pure (a : α) (cache : Cache) :
    outcome (pure a) cache = (.ok a, cache) := rfl

@[simp] theorem outcome_throw (e : Error) (cache : Cache) :
    outcome (throw e : Lookup α) cache = (.error e, cache) := rfl

@[simp] theorem outcome_get (cache : Cache) : outcome get cache = (.ok cache, cache) := rfl

@[simp] theorem outcome_ofExcept (x : Except Error α) (cache : Cache) :
    outcome (MonadExcept.ofExcept x) cache = (x, cache) := by
  cases x <;> rfl

theorem outcome_bind_ok {x : Lookup α} {cache cache' : Cache} {a : α}
    (h : outcome x cache = (.ok a, cache')) (f : α → Lookup β) :
    outcome (x >>= f) cache = outcome (f a) cache' :=
  run_bind_ok h f

theorem outcome_bind_error {x : Lookup α} {cache cache' : Cache} {e : Error}
    (h : outcome x cache = (.error e, cache')) (f : α → Lookup β) :
    outcome (x >>= f) cache = (.error e, cache') :=
  run_bind_error h f

theorem outcome_bind (x : Lookup α) (f : α → Lookup β) (cache : Cache) :
    outcome (x >>= f) cache = match outcome x cache with
      | (.ok a, cache') => outcome (f a) cache'
      | (.error e, cache') => (.error e, cache') := by
  rcases h : outcome x cache with ⟨_ | a, cache'⟩
  · exact outcome_bind_error h f
  · exact outcome_bind_ok h f

def Gives (x : Lookup α) (P : α → Prop) : Prop :=
  ∀ cache a cache', outcome x cache = (.ok a, cache') → P a

theorem gives_trivial (x : Lookup α) : Gives x fun _ => True :=
  fun _ _ _ _ => trivial

theorem gives_pure {P : α → Prop} {a : α} (h : P a) : Gives (pure a) P := by
  intro cache b cache' hb
  rw [outcome_pure] at hb
  obtain ⟨⟨⟩, -⟩ := Prod.mk.inj hb
  exact h

theorem gives_throw (P : α → Prop) (e : Error) : Gives (throw e) P := by
  intro cache a cache' h
  rw [outcome_throw] at h
  cases (Prod.mk.inj h).1

theorem gives_ofExcept {P : α → Prop} {x : Except Error α} (h : ∀ a, x = .ok a → P a) :
    Gives (MonadExcept.ofExcept x) P := by
  intro cache a cache' ha
  rw [outcome_ofExcept] at ha
  exact h a (Prod.mk.inj ha).1

theorem gives_bind {P : α → Prop} {Q : β → Prop} {x : Lookup α} {f : α → Lookup β}
    (hx : Gives x P) (hf : ∀ a, P a → Gives (f a) Q) : Gives (x >>= f) Q := by
  intro cache b cache' h
  rcases ha : outcome x cache with ⟨e | a, cache''⟩
  · rw [outcome_bind_error ha] at h
    cases (Prod.mk.inj h).1
  · rw [outcome_bind_ok ha] at h
    exact hf a (hx cache a cache'' ha) cache'' b cache' h

theorem gives_mapM {P : β → Prop} {f : α → Lookup β} (xs : List α) (h : ∀ x ∈ xs, Gives (f x) P) :
    Gives (xs.mapM f) fun ys => ∀ y ∈ ys, P y := by
  induction xs with
  | nil =>
    rw [List.mapM_nil]
    exact gives_pure (by simp)
  | cons x xs ih =>
    rw [List.mapM_cons]
    refine gives_bind (h x List.mem_cons_self) ?_
    intro y hy
    refine gives_bind (ih fun z hz => h z (List.mem_cons_of_mem x hz)) ?_
    intro ys hys
    exact gives_pure (List.forall_mem_cons.mpr ⟨hy, hys⟩)

end SymbolDocs.Lookup
