import SymbolDocs.Proofs.Outcome
import SymbolDocs.Proofs.Settings.Keys
import SymbolDocs.Settings.EnvValue
import SymbolDocs.Settings.Toml

namespace SymbolDocs.Settings

theorem foldlM_keeps {α β : Type} {P : β → Prop} {f : β → α → Option β} {as : List α} {b c : β}
    (hf : ∀ b a c, a ∈ as → P b → f b a = some c → P c) (hb : P b)
    (h : as.foldlM f b = some c) : P c := by
  induction as generalizing b with
  | nil =>
    obtain rfl := Option.some.inj h
    exact hb
  | cons a as ih =>
    rw [List.foldlM_cons] at h
    obtain ⟨b', hb', h⟩ := Option.bind_eq_some_iff.mp h
    refine ih (fun b a c ha => hf b a c (List.mem_cons_of_mem _ ha)) ?_ h
    exact hf b a b' List.mem_cons_self hb hb'

namespace Toml

/-- No table has a key twice; arrays of tables are not looked into. -/
inductive Node.IsDistinct : Node → Prop
  | value {v : Value} : v.IsDistinct → IsDistinct (.value v)
  | table {isImplicit isDotted : Bool} {entries : Entries} : (keys entries).Nodup →
    (∀ e ∈ entries, e.2.IsDistinct) → IsDistinct (.table isImplicit isDotted entries)
  | tables {items : List Node} : IsDistinct (.tables items)

theorem Node.isDistinct_table_iff {isImplicit isDotted : Bool} {entries : Entries} :
    (Node.table isImplicit isDotted entries).IsDistinct ↔ Proper Node.IsDistinct entries := by
  constructor
  · intro h
    cases h with
    | table hnodup hall => exact ⟨hnodup, hall⟩
  · exact fun h => .table h.nodup h.forall_mem

theorem entriesToValue_eq_map (entries : Entries) :
    entriesToValue entries = entries.map fun e => (e.1, e.2.toValue) := by
  induction entries with
  | nil => rfl
  | cons e entries ih => rw [entriesToValue, ih, List.map_cons]

theorem proper_entriesToValue {entries : Entries} (hnodup : (keys entries).Nodup)
    (h : ∀ e ∈ entries, e.2.toValue.IsDistinct) :
    Proper Value.IsDistinct (entriesToValue entries) := by
  rw [entriesToValue_eq_map]
  refine ⟨by simpa [keys, Function.comp_def] using hnodup, ?_⟩
  intro f hf
  obtain ⟨e, he, rfl⟩ := List.mem_map.mp hf
  exact h e he

theorem Node.isDistinct_toValue {n : Node} (h : n.IsDistinct) : n.toValue.IsDistinct := by
  induction h with
  | value hv =>
    rw [Node.toValue]
    exact hv
  | table hnodup _ ih =>
    rw [Node.toValue]
    exact Value.isDistinct_table_iff.mpr (proper_entriesToValue hnodup ih)
  | tables =>
    rw [Node.toValue]
    exact .other rfl

theorem isDistinct_entriesToValue {entries : Entries} (h : Proper Node.IsDistinct entries) :
    (Value.table (entriesToValue entries)).IsDistinct :=
  Value.isDistinct_table_iff.mpr (proper_entriesToValue h.nodup fun e he =>
    Node.isDistinct_toValue (h.forall_mem e he))

theorem proper_change {byDots : Bool} {f : Bool → Entries → Option Entries}
    (hf : ∀ isDotted entries changed, Proper Node.IsDistinct entries →
      f isDotted entries = some changed → Proper Node.IsDistinct changed)
    {path : List String} {isDotted : Bool} {entries changed : Entries}
    (hentries : Proper Node.IsDistinct entries)
    (h : change byDots f path isDotted entries = some changed) :
    Proper Node.IsDistinct changed := by
  induction path generalizing isDotted entries changed with
  | nil => exact hf isDotted entries changed hentries h
  | cons key path ih =>
    rw [change] at h
    split at h
    · obtain ⟨inner, hinner, h⟩ := Option.bind_eq_some_iff.mp h
      obtain rfl := Option.some.inj h
      exact hentries.setField (Node.isDistinct_table_iff.mpr (ih .nil hinner))
    · cases h
    · next hkey =>
      split at h
      · cases h
      · obtain ⟨inner, hinner, h⟩ := Option.bind_eq_some_iff.mp h
        obtain rfl := Option.some.inj h
        have hbelow := Node.isDistinct_table_iff.mp (hentries.of_field? hkey)
        exact hentries.setField (Node.isDistinct_table_iff.mpr (ih hbelow hinner))
    · split at h
      · obtain ⟨inner, -, h⟩ := Option.bind_eq_some_iff.mp h
        obtain rfl := Option.some.inj h
        exact hentries.setField .tables
      · cases h

theorem proper_define {path : List String} {key : String} {node : Node} {entries changed : Entries}
    (hentries : Proper Node.IsDistinct entries) (hnode : node.IsDistinct)
    (h : define path key node entries = some changed) : Proper Node.IsDistinct changed := by
  refine proper_change ?_ hentries h
  intro isDotted entries changed hentries h
  split at h
  · cases h
  · obtain rfl := Option.some.inj h
    exact hentries.setField hnode

theorem proper_openTable {header : List String} {root changed : Entries}
    (hroot : Proper Node.IsDistinct root) (h : openTable header root = some changed) :
    Proper Node.IsDistinct changed := by
  obtain ⟨⟨path, key⟩, -, h⟩ := Option.bind_eq_some_iff.mp h
  refine proper_change ?_ hroot h
  intro isDotted entries changed hentries h
  split at h
  · obtain rfl := Option.some.inj h
    exact hentries.setField (.table List.nodup_nil nofun)
  · next hkey =>
    obtain rfl := Option.some.inj h
    have hbelow := Node.isDistinct_table_iff.mp (hentries.of_field? hkey)
    exact hentries.setField (Node.isDistinct_table_iff.mpr hbelow)
  · cases h

theorem proper_openItem {header : List String} {root changed : Entries}
    (hroot : Proper Node.IsDistinct root) (h : openItem header root = some changed) :
    Proper Node.IsDistinct changed := by
  obtain ⟨⟨path, key⟩, -, h⟩ := Option.bind_eq_some_iff.mp h
  refine proper_change ?_ hroot h
  intro isDotted entries changed hentries h
  split at h
  · obtain rfl := Option.some.inj h
    exact hentries.setField .tables
  · obtain rfl := Option.some.inj h
    exact hentries.setField .tables
  · cases h

theorem isDistinct_inlineTable {fields : List (List String × Value)} {v : Value}
    (hfields : ∀ f ∈ fields, f.2.IsDistinct) (h : inlineTable fields = some v) : v.IsDistinct := by
  obtain ⟨entries, hentries, h⟩ := Option.bind_eq_some_iff.mp h
  obtain rfl := Option.some.inj h
  apply isDistinct_entriesToValue
  refine foldlM_keeps ?_ .nil hentries
  rintro entries ⟨ks, w⟩ changed hmem hproper hstep
  obtain ⟨⟨path, key⟩, -, hstep⟩ := Option.bind_eq_some_iff.mp hstep
  exact proper_define hproper (.value (hfields _ hmem)) hstep

theorem keyValue_eq_some {item : Reader Value} {s r : List Char} {f : List String × Value}
    (h : keyValue item s = some (f, r)) : ∃ t, item t = some (f.2, r) := by
  obtain ⟨⟨key, t⟩, -, h⟩ := Option.bind_eq_some_iff.mp h
  dsimp only at h
  split at h
  · next t ht =>
    obtain ⟨⟨v, t'⟩, hv, h⟩ := Option.bind_eq_some_iff.mp h
    obtain ⟨rfl, rfl⟩ := Prod.mk.inj (Option.some.inj h)
    exact ⟨_, hv⟩
  · cases h

theorem forall_mem_inlineFields {item : Reader Value} {P : Value → Prop}
    (hitem : ∀ s v r, item s = some (v, r) → P v) {fuel : Nat} {s r : List Char}
    {fields : List (List String × Value)} (h : inlineFields item fuel s = some (fields, r)) :
    ∀ f ∈ fields, P f.2 := by
  induction fuel generalizing s fields r with
  | zero => cases h
  | succ fuel ih =>
    obtain ⟨⟨first, t⟩, hfirst, h⟩ := Option.bind_eq_some_iff.mp h
    obtain ⟨_, hvalue⟩ := keyValue_eq_some hfirst
    dsimp only at h
    split at h
    · obtain ⟨⟨rest, t'⟩, hrest, h⟩ := Option.bind_eq_some_iff.mp h
      obtain ⟨rfl, rfl⟩ := Prod.mk.inj (Option.some.inj h)
      exact List.forall_mem_cons.mpr ⟨hitem _ _ _ hvalue, ih hrest⟩
    · obtain ⟨rfl, rfl⟩ := Prod.mk.inj (Option.some.inj h)
      exact List.forall_mem_singleton.mpr (hitem _ _ _ hvalue)
    · cases h

theorem isDistinct_scalar {s r : List Char} {v : Value} (h : scalar s = some (v, r)) :
    v.IsDistinct := by
  obtain ⟨w, hw, h⟩ := Option.map_eq_some_iff.mp h
  obtain ⟨rfl, rfl⟩ := Prod.mk.inj h
  unfold scalar? at hw
  split_ifs at hw
  · obtain rfl := Option.some.inj hw
    exact .other rfl
  · obtain rfl := Option.some.inj hw
    exact .other rfl
  · obtain rfl := Option.some.inj hw
    exact .table List.nodup_nil nofun
  · split at hw
    · obtain rfl := Option.some.inj hw
      exact .other rfl
    · obtain ⟨x, -, rfl⟩ := Option.map_eq_some_iff.mp hw
      exact .other rfl

theorem isDistinct_of_value {depth : Nat} {s r : List Char} {v : Value}
    (h : value depth s = some (v, r)) : v.IsDistinct := by
  induction depth using Nat.strongRecOn generalizing s v r with
  | ind depth ih =>
    unfold value at h
    split at h
    · obtain ⟨text, -, h⟩ := Option.map_eq_some_iff.mp h
      obtain ⟨rfl, rfl⟩ := Prod.mk.inj h
      exact .other rfl
    · obtain ⟨text, -, h⟩ := Option.map_eq_some_iff.mp h
      obtain ⟨rfl, rfl⟩ := Prod.mk.inj h
      exact .other rfl
    · obtain ⟨items, -, h⟩ := Option.map_eq_some_iff.mp h
      obtain ⟨rfl, rfl⟩ := Prod.mk.inj h
      exact .other rfl
    · next depth r' =>
      split at h
      · obtain ⟨rfl, rfl⟩ := Prod.mk.inj (Option.some.inj h)
        exact .table List.nodup_nil nofun
      · obtain ⟨⟨fields, t⟩, hfields, h⟩ := Option.bind_eq_some_iff.mp h
        obtain ⟨w, hw, h⟩ := Option.bind_eq_some_iff.mp h
        obtain ⟨rfl, rfl⟩ := Prod.mk.inj (Option.some.inj h)
        have hall := forall_mem_inlineFields
          (fun s v r hv => ih depth (Nat.lt_succ_self depth) hv) hfields
        exact isDistinct_inlineTable hall hw
    · exact isDistinct_scalar h

theorem proper_expression {d d' : Document} {s r : List Char}
    (hd : Proper Node.IsDistinct d.root) (h : expression d s = some (d', r)) :
    Proper Node.IsDistinct d'.root := by
  unfold expression at h
  split at h
  · obtain ⟨⟨key, t⟩, -, h⟩ := Option.bind_eq_some_iff.mp h
    obtain ⟨root, hroot, h⟩ := Option.bind_eq_some_iff.mp h
    obtain ⟨rfl, rfl⟩ := Prod.mk.inj (Option.some.inj h)
    exact proper_openItem hd hroot
  · obtain ⟨⟨key, t⟩, -, h⟩ := Option.bind_eq_some_iff.mp h
    obtain ⟨root, hroot, h⟩ := Option.bind_eq_some_iff.mp h
    obtain ⟨rfl, rfl⟩ := Prod.mk.inj (Option.some.inj h)
    exact proper_openTable hd hroot
  · obtain ⟨⟨⟨ks, v⟩, t⟩, hkeyValue, h⟩ := Option.bind_eq_some_iff.mp h
    obtain ⟨d'', hdefine, h⟩ := Option.bind_eq_some_iff.mp h
    obtain ⟨rfl, rfl⟩ := Prod.mk.inj (Option.some.inj h)
    obtain ⟨_, hv⟩ := keyValue_eq_some hkeyValue
    obtain ⟨⟨path, key⟩, -, hdefine⟩ := Option.bind_eq_some_iff.mp hdefine
    obtain ⟨root, hroot, hdefine⟩ := Option.bind_eq_some_iff.mp hdefine
    obtain rfl := Option.some.inj hdefine
    refine proper_change ?_ hd hroot
    intro isDotted entries changed hentries hstep
    exact proper_define hentries (.value (isDistinct_of_value hv)) hstep

theorem proper_expressions {fuel : Nat} {d d' : Document} {s : List Char}
    (hd : Proper Node.IsDistinct d.root) (h : expressions fuel d s = some d') :
    Proper Node.IsDistinct d'.root := by
  induction fuel generalizing d s with
  | zero => cases h
  | succ fuel ih =>
    rw [expressions] at h
    split at h
    · obtain rfl := Option.some.inj h
      exact hd
    · obtain ⟨⟨d'', t⟩, hstep, h⟩ := Option.bind_eq_some_iff.mp h
      obtain ⟨t', -, h⟩ := Option.bind_eq_some_iff.mp h
      exact ih (proper_expression hd hstep) h

theorem isDistinct_parse? {text : String} {fields : List (String × Value)}
    (h : parse? text = some fields) : (Value.table fields).IsDistinct := by
  obtain ⟨d, hd, h⟩ := Option.bind_eq_some_iff.mp h
  obtain rfl := Option.some.inj h
  exact isDistinct_entriesToValue (proper_expressions .nil hd)

end Toml

namespace EnvValue

theorem forall_mem_delimited {α : Type} {item : Reader α} {P : α → Prop}
    (hitem : ∀ s a r, item s = .ok (a, r) → P a) {close : Char} {fuel : Nat} {s r : List Char}
    {as : List α} (h : delimited item close fuel s = .ok (as, r)) : ∀ a ∈ as, P a := by
  induction fuel generalizing s as r with
  | zero => cases h
  | succ fuel ih =>
    unfold delimited at h
    split at h
    · cases h
    · split at h
      · obtain ⟨rfl, rfl⟩ := Prod.mk.inj (Except.ok.inj h)
        exact nofun
      · obtain ⟨⟨first, t⟩, hfirst, h⟩ := bind_eq_ok.mp h
        dsimp only at h
        split at h
        · obtain ⟨⟨rest, t'⟩, hrest, h⟩ := bind_eq_ok.mp h
          obtain ⟨rfl, rfl⟩ := Prod.mk.inj (Except.ok.inj h)
          exact List.forall_mem_cons.mpr ⟨hitem _ _ _ hfirst, ih hrest⟩
        · split at h
          · obtain ⟨rfl, rfl⟩ := Prod.mk.inj (Except.ok.inj h)
            exact List.forall_mem_singleton.mpr (hitem _ _ _ hfirst)
          · cases h
        · cases h

theorem keyValue_eq_ok {item : Reader Value} {s r : List Char} {f : String × Value}
    (h : keyValue item s = .ok (f, r)) : ∃ t, item t = .ok (f.2, r) := by
  obtain ⟨⟨k, t⟩, -, h⟩ := bind_eq_ok.mp h
  dsimp only at h
  split at h
  · obtain ⟨⟨v, t'⟩, hv, h⟩ := bind_eq_ok.mp h
    obtain ⟨rfl, rfl⟩ := Prod.mk.inj (Except.ok.inj h)
    exact ⟨_, hv⟩
  · cases h

theorem isDistinct_table {fields : List (String × Value)} (h : ∀ f ∈ fields, f.2.IsDistinct) :
    (table fields).IsDistinct := by
  have hfold (acc : List (String × Value)) (hacc : Proper Value.IsDistinct acc) :
      Proper Value.IsDistinct (fields.foldl (fun fs f => setField fs f.1 f.2) acc) := by
    induction fields generalizing acc with
    | nil => exact hacc
    | cons f fields ih =>
      obtain ⟨hf, hfields⟩ := List.forall_mem_cons.mp h
      exact ih hfields (setField acc f.1 f.2) (hacc.setField hf)
  exact Value.isDistinct_table_iff.mpr (hfold [] .nil)

theorem isDistinct_plain (s : List Char) : (plain s).IsDistinct := by
  unfold plain
  dsimp only
  split <;> exact .other rfl

theorem isDistinct_of_value {limit depth : Nat} {s r : List Char} {v : Value}
    (h : value limit depth s = .ok (v, r)) : v.IsDistinct := by
  induction depth generalizing s v r with
  | zero => cases h
  | succ depth ih =>
    obtain ⟨⟨w, t⟩, hread, h⟩ := map_eq_ok.mp h
    obtain ⟨rfl, rfl⟩ := Prod.mk.inj h
    split at hread
    · obtain ⟨rfl, rfl⟩ := Prod.mk.inj (Except.ok.inj hread)
      exact .other rfl
    · obtain ⟨rfl, rfl⟩ := Prod.mk.inj (Except.ok.inj hread)
      exact .other rfl
    · obtain ⟨⟨fields, t'⟩, hfields, hread⟩ := map_eq_ok.mp hread
      obtain ⟨rfl, rfl⟩ := Prod.mk.inj hread
      apply isDistinct_table
      refine forall_mem_delimited (P := fun f : String × Value => f.2.IsDistinct) ?_ hfields
      intro s f r hf
      obtain ⟨_, hv⟩ := keyValue_eq_ok hf
      exact ih hv
    · obtain ⟨⟨items, t'⟩, -, hread⟩ := map_eq_ok.mp hread
      obtain ⟨rfl, rfl⟩ := Prod.mk.inj hread
      exact .other rfl
    · obtain ⟨⟨text, t'⟩, -, hread⟩ := map_eq_ok.mp hread
      obtain ⟨rfl, rfl⟩ := Prod.mk.inj hread
      exact .other rfl
    · obtain ⟨rfl, rfl⟩ := Prod.mk.inj (Except.ok.inj hread)
      exact .other rfl
    · cases hread
    · obtain ⟨rfl, rfl⟩ := Prod.mk.inj (Except.ok.inj hread)
      exact isDistinct_plain _

theorem isDistinct_parse? {text : String} {v : Value} (h : parse? text = some v) :
    v.IsDistinct := by
  unfold parse? at h
  dsimp only at h
  split at h
  · next hvalue =>
    obtain rfl := Option.some.inj h
    exact isDistinct_of_value hvalue
  · cases h
  · obtain rfl := Option.some.inj h
    exact .other rfl

end EnvValue

end SymbolDocs.Settings
