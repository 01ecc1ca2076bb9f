import SymbolDocs.Proofs.Settings.Reading
import SymbolDocs.Proofs.Text.Cut
import SymbolDocs.Settings.Layers

namespace SymbolDocs.Settings

namespace Tree

def isTable : Tree → Bool
  | leaf _ _ => false
  | table _ _ => true

def child? : Tree → String → Option Tree
  | leaf _ _, _ => none
  | table _ fields, key => field? fields key

def over? : Option Tree → Option Tree → Option Tree
  | below, none => below
  | none, some above => some above
  | some below, some above => some (overlay below above)

inductive IsDistinct : Tree → Prop
  | leaf {origin : Origin} {v : Value} : IsDistinct (.leaf origin v)
  | table {origin : Origin} {fields : List (String × Tree)} : (keys fields).Nodup →
    (∀ f ∈ fields, f.2.IsDistinct) → IsDistinct (.table origin fields)

theorem isDistinct_table_iff {origin : Origin} {fields : List (String × Tree)} :
    (table origin fields).IsDistinct ↔ Proper IsDistinct fields := by
  constructor
  · intro h
    cases h with
    | table hnodup hall => exact ⟨hnodup, hall⟩
  · exact fun h => .table h.nodup h.forall_mem

theorem IsDistinct.child? {t c : Tree} {key : String} (h : t.IsDistinct)
    (hc : t.child? key = some c) : c.IsDistinct := by
  cases h with
  | leaf => cases hc
  | table hnodup hall => exact Proper.of_field? ⟨hnodup, hall⟩ hc

theorem field?_overlayFields {below above : List (String × Tree)} (h : (keys above).Nodup)
    (key : String) : field? (overlayFields below above) key =
      over? (field? below key) (field? above key) := by
  induction above generalizing below with
  | nil => rfl
  | cons f above ih =>
    obtain ⟨k, t⟩ := f
    obtain ⟨hk, habove⟩ := List.nodup_cons.mp h
    rw [overlayFields, ih habove, field?_setField, field?_cons]
    by_cases hkey : k = key
    · subst hkey
      rw [if_pos rfl, if_pos rfl, field?_eq_none_iff.mpr hk]
      cases field? below k <;> rfl
    · rw [if_neg hkey, if_neg hkey]

theorem child?_overlay {below above : Tree} (hb : below.isTable) (ha : above.isTable)
    (hd : above.IsDistinct) (key : String) :
    (overlay below above).child? key = over? (below.child? key) (above.child? key) := by
  cases below with
  | leaf => cases hb
  | table _ below =>
    cases above with
    | leaf => cases ha
    | table _ above =>
      rw [overlay]
      exact field?_overlayFields (isDistinct_table_iff.mp hd).nodup key

theorem isTable_overlay {below above : Tree} (h : above.isTable) :
    (overlay below above).isTable := by
  cases above with
  | leaf => cases h
  | table => cases below <;> rfl

theorem proper_overlayFields {below above : List (String × Tree)}
    (hbelow : Proper IsDistinct below) (habove : ∀ f ∈ above, f.2.IsDistinct)
    (hoverlay : ∀ f ∈ above, ∀ s : Tree, s.IsDistinct → (overlay s f.2).IsDistinct) :
    Proper IsDistinct (overlayFields below above) := by
  induction above generalizing below with
  | nil => exact hbelow
  | cons f above ih =>
    obtain ⟨key, t⟩ := f
    obtain ⟨ht, habove⟩ := List.forall_mem_cons.mp habove
    obtain ⟨hover, hoverlay⟩ := List.forall_mem_cons.mp hoverlay
    rw [overlayFields]
    refine ih (hbelow.setField ?_) habove hoverlay
    cases hkey : field? below key with
    | none => exact ht
    | some s => exact hover s (hbelow.of_field? hkey)

theorem IsDistinct.overlay {below above : Tree} (hb : below.IsDistinct) (ha : above.IsDistinct) :
    (overlay below above).IsDistinct := by
  induction ha generalizing below with
  | leaf =>
    cases below <;> exact .leaf
  | @table origin fields hnodup hall ih =>
    cases below with
    | leaf => exact .table hnodup hall
    | table o below =>
      rw [Tree.overlay]
      exact isDistinct_table_iff.mpr
        (proper_overlayFields (isDistinct_table_iff.mp hb) hall fun f hf s hs => ih f hf hs)

theorem ofFields_eq_map (origin : Origin) (fields : List (String × Value)) :
    ofFields origin fields = fields.map fun f => (f.1, ofValue origin f.2) := by
  induction fields with
  | nil => rfl
  | cons f fields ih => rw [ofFields, ih, List.map_cons]

theorem isDistinct_ofValue {v : Value} (h : v.IsDistinct) (origin : Origin) :
    (ofValue origin v).IsDistinct := by
  induction h with
  | @table fields hnodup _ ih =>
    rw [ofValue, ofFields_eq_map]
    refine .table (by simpa [keys, Function.comp_def] using hnodup) ?_
    intro f hf
    obtain ⟨g, hg, rfl⟩ := List.mem_map.mp hf
    exact ih g hg
  | @other v hv =>
    cases v with
    | table => cases hv
    | _ => exact .leaf

theorem isDistinct_nest {t : Tree} (h : t.IsDistinct) (origin : Origin) (path : List String) :
    (nest origin path t).IsDistinct := by
  induction path with
  | nil => exact h
  | cons key path ih =>
    exact .table (List.nodup_singleton key) (List.forall_mem_singleton.mpr ih)

end Tree

theorem ne_nil_of_envKey? {name : String} {path : List String} (h : envKey? name = some path) :
    path ≠ [] := by
  obtain ⟨rest, -, h⟩ := Option.bind_eq_some_iff.mp h
  dsimp only at h
  split at h
  · cases h
  · obtain rfl := Option.some.inj h
    simpa using Text.splitOn_ne_nil '.' _

theorem isDistinct_envLayer? {env : Environment} {t : Tree} (h : envLayer? env = some t) :
    t.isTable ∧ t.IsDistinct := by
  refine foldlM_keeps (P := fun t => t.isTable = true ∧ t.IsDistinct) ?_
    ⟨rfl, .table List.nodup_nil nofun⟩ h
  rintro layer ⟨name, text⟩ changed - ⟨htable, hdistinct⟩ hstep
  dsimp only at hstep
  split at hstep
  · obtain rfl := Option.some.inj hstep
    exact ⟨htable, hdistinct⟩
  · next path hpath =>
    obtain ⟨v, hv, rfl⟩ := Option.map_eq_some_iff.mp hstep
    obtain ⟨key, path, rfl⟩ := List.exists_cons_of_ne_nil (ne_nil_of_envKey? hpath)
    have hvalue := Tree.isDistinct_ofValue (EnvValue.isDistinct_parse? hv) .environment
    exact ⟨Tree.isTable_overlay rfl, hdistinct.overlay (Tree.isDistinct_nest hvalue _ _)⟩

theorem isDistinct_fileLayer? {fs : FileSystem} {path : String} {t : Tree}
    (h : fileLayer? fs path = some t) : t.isTable ∧ t.IsDistinct := by
  unfold fileLayer? at h
  split at h
  · obtain rfl := Option.some.inj h
    exact ⟨rfl, .table List.nodup_nil nofun⟩
  · split at h
    · cases h
    · obtain ⟨fields, hfields, rfl⟩ := Option.map_eq_some_iff.mp h
      obtain ⟨written, hwritten, hfields⟩ := Option.bind_eq_some_iff.mp hfields
      have hproper := Value.isDistinct_table_iff.mp (Toml.isDistinct_parse? hwritten)
      obtain ⟨hkeys, hall⟩ := forall_mem_fieldMeanings? hfields fun f hf v =>
        (hproper.forall_mem f hf).of_meaning?
      have hmeaning : (Value.table fields).IsDistinct := .table (hkeys ▸ hproper.nodup) hall
      refine ⟨?_, Tree.isDistinct_ofValue hmeaning _⟩
      rw [Tree.ofValue]
      rfl

end SymbolDocs.Settings
