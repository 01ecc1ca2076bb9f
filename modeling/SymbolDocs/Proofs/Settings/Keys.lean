import Mathlib.Data.List.Nodup
import SymbolDocs.Settings.Value

namespace SymbolDocs.Settings

def keys {α : Type} (fields : List (String × α)) : List String :=
  fields.map (·.1)

structure Proper {α : Type} (P : α → Prop) (fields : List (String × α)) : Prop where
  nodup : (keys fields).Nodup
  forall_mem : ∀ f ∈ fields, P f.2

section

variable {α : Type} {fields : List (String × α)} {key k : String} {a b : α}

theorem field?_cons (f : String × α) (fields : List (String × α)) (key : String) :
    field? (f :: fields) key = if f.1 = key then some f.2 else field? fields key := by
  by_cases h : f.1 = key <;> simp [field?, h]

theorem mem_of_field? (h : field? fields key = some a) : (key, a) ∈ fields := by
  induction fields with
  | nil => cases h
  | cons f fields ih =>
    rw [field?_cons] at h
    split at h
    · next hkey =>
      obtain ⟨rfl, rfl⟩ : f.1 = key ∧ f.2 = a := ⟨hkey, Option.some.inj h⟩
      exact List.mem_cons_self
    · exact List.mem_cons_of_mem f (ih h)

theorem field?_eq_none_iff : field? fields key = none ↔ key ∉ keys fields := by
  induction fields with
  | nil => simp [field?, keys]
  | cons f fields ih =>
    have hkeys : keys (f :: fields) = f.1 :: keys fields := rfl
    rw [field?_cons, hkeys, List.mem_cons, not_or, ← ih]
    by_cases h : f.1 = key
    · simp [h]
    · simp [h, Ne.symm h]

theorem field?_setField : field? (setField fields k a) key =
    if k = key then some a else field? fields key := by
  induction fields with
  | nil => rw [setField, field?_cons]
  | cons f fields ih =>
    rw [setField]
    by_cases hf : f.1 = k
    · rw [if_pos hf, field?_cons, field?_cons, hf]
      by_cases h : k = key <;> simp [h]
    · rw [if_neg hf, field?_cons, field?_cons, ih]
      by_cases h : f.1 = key
      · rw [if_pos h, if_pos h, if_neg fun hk => hf (h.trans hk.symm)]
      · rw [if_neg h, if_neg h]

theorem mem_setField {f : String × α} (h : f ∈ setField fields k a) : f = (k, a) ∨ f ∈ fields := by
  induction fields with
  | nil => exact .inl (List.mem_singleton.mp h)
  | cons g fields ih =>
    rw [setField] at h
    split at h
    · exact (List.mem_cons.mp h).imp_right (List.mem_cons_of_mem g)
    · rcases List.mem_cons.mp h with rfl | h
      · exact .inr List.mem_cons_self
      · exact (ih h).imp_right (List.mem_cons_of_mem g)

theorem nodup_setField (h : (keys fields).Nodup) : (keys (setField fields k a)).Nodup := by
  induction fields with
  | nil => exact List.nodup_singleton k
  | cons f fields ih =>
    obtain ⟨hf, hfields⟩ := List.nodup_cons.mp h
    rw [setField]
    split
    · next hk => exact List.nodup_cons.mpr ⟨hk ▸ hf, hfields⟩
    · next hk =>
      refine List.nodup_cons.mpr ⟨?_, ih hfields⟩
      intro hmem
      obtain ⟨g, hg, hkey⟩ := List.mem_map.mp hmem
      rcases mem_setField hg with rfl | hg
      · exact hk hkey.symm
      · exact hf (hkey ▸ List.mem_map_of_mem hg)

theorem Proper.nil {P : α → Prop} : Proper P [] :=
  ⟨List.nodup_nil, nofun⟩

theorem Proper.of_field? {P : α → Prop} (h : Proper P fields) (ha : field? fields key = some a) :
    P a :=
  h.forall_mem _ (mem_of_field? ha)

theorem Proper.setField {P : α → Prop} (h : Proper P fields) (ha : P a) :
    Proper P (setField fields k a) := by
  refine ⟨nodup_setField h.nodup, ?_⟩
  intro f hf
  rcases mem_setField hf with rfl | hf
  · exact ha
  · exact h.forall_mem f hf

end

namespace Value

def isTable : Value → Bool
  | table _ => true
  | _ => false

inductive IsDistinct : Value → Prop
  | table {fields : List (String × Value)} :
    (keys fields).Nodup → (∀ f ∈ fields, f.2.IsDistinct) → IsDistinct (.table fields)
  | other {v : Value} : v.isTable = false → IsDistinct v

theorem isDistinct_table_iff {fields : List (String × Value)} :
    (table fields).IsDistinct ↔ Proper IsDistinct fields := by
  constructor
  · rintro (⟨hnodup, hall⟩ | ⟨⟨⟩⟩)
    exact ⟨hnodup, hall⟩
  · exact fun h => .table h.nodup h.forall_mem

end Value

theorem forall_mem_fieldMeanings? {P : Value → Prop} {fields meanings : List (String × Value)}
    (h : fieldMeanings? fields = some meanings)
    (hP : ∀ f ∈ fields, ∀ v, f.2.meaning? = some v → P v) :
    keys meanings = keys fields ∧ ∀ f ∈ meanings, P f.2 := by
  induction fields generalizing meanings with
  | nil =>
    obtain rfl : [] = meanings := by simpa [fieldMeanings?] using h
    exact ⟨rfl, nofun⟩
  | cons f fields ih =>
    obtain ⟨key, v⟩ := f
    simp only [fieldMeanings?, Option.bind_eq_bind, Option.bind_eq_some_iff, Option.pure_def,
      Option.some.injEq] at h
    obtain ⟨w, hw, rest, hrest, rfl⟩ := h
    obtain ⟨hkeys, hall⟩ := ih hrest fun f hf => hP f (List.mem_cons_of_mem _ hf)
    refine ⟨congrArg (key :: ·) hkeys, ?_⟩
    intro f hf
    rcases List.mem_cons.mp hf with rfl | hf
    · exact hP _ List.mem_cons_self w hw
    · exact hall f hf

theorem Value.IsDistinct.of_meaning? {v w : Value} (hv : v.IsDistinct) (h : v.meaning? = some w) :
    w.IsDistinct := by
  induction hv generalizing w with
  | @table fields hnodup _ ih =>
    simp only [Value.meaning?, Option.bind_eq_bind, Option.bind_eq_some_iff] at h
    obtain ⟨meanings, hmeanings, h⟩ := h
    obtain ⟨hkeys, hall⟩ := forall_mem_fieldMeanings? hmeanings fun f hf _ => ih f hf
    have hproper : Proper IsDistinct meanings := ⟨hkeys ▸ hnodup, hall⟩
    split at h
    · cases h
    · obtain rfl := Option.some.inj h
      cases hmeaning : field? meanings meaningKey with
      | none => exact isDistinct_table_iff.mpr hproper
      | some u => exact hproper.of_field? hmeaning
  | @other v hv =>
    cases v with
    | table fields => cases hv
    | array items =>
      obtain ⟨meanings, -, rfl⟩ := Option.map_eq_some_iff.mp (by simpa [Value.meaning?] using h)
      exact .other rfl
    | _ =>
      obtain rfl := Option.some.inj (by simpa [Value.meaning?] using h)
      exact .other rfl

end SymbolDocs.Settings
