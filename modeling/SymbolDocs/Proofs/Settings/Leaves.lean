import Mathlib.Data.Fintype.Basic
import SymbolDocs.Proofs.Settings.Overlay
import SymbolDocs.Settings.Basic

namespace SymbolDocs.Settings

inductive Leaf where
  | doxygen
  | sourceDirectory
  | sources
  | predefined
  | xmlOutput
  | projectName
  | description
  | initializer
  | preconditions
  | postconditions
  | returns
  deriving DecidableEq

inductive Kind where
  | text
  | list
  | switch

namespace Leaf

instance : Fintype Leaf where
  elems := {doxygen, sourceDirectory, sources, predefined, xmlOutput, projectName, description,
    initializer, preconditions, postconditions, returns}
  complete l := by cases l <;> decide

def part : Leaf → String
  | doxygen | sourceDirectory | sources | predefined | xmlOutput | projectName => "extraction"
  | description | initializer | preconditions | postconditions | returns => "render"

def key : Leaf → String
  | doxygen => "doxygen"
  | sourceDirectory => "source_directory"
  | sources => "sources"
  | predefined => "predefined"
  | xmlOutput => "xml_output"
  | projectName => "project_name"
  | description => "show_description"
  | initializer => "show_initializer"
  | preconditions => "show_preconditions"
  | postconditions => "show_postconditions"
  | returns => "show_return"

def kind : Leaf → Kind
  | doxygen | sourceDirectory | xmlOutput | projectName => .text
  | sources | predefined => .list
  | description | initializer | preconditions | postconditions | returns => .switch

end Leaf

def textsValue (texts : List String) : Value :=
  .array (texts.map .string)

namespace Kind

inductive Holds : Kind → Value → Prop
  | text (s : String) : Holds .text (.string s)
  | list (texts : List String) : Holds .list (textsValue texts)
  | switch (b : Bool) : Holds .switch (.bool b)

def isText : Value → Bool
  | .string _ => true
  | _ => false

def check : Kind → Value → Bool
  | .text, v => isText v
  | .list, .array items => items.all isText
  | .switch, .bool _ => true
  | _, _ => false

theorem all_isText_iff {items : List Value} :
    items.all isText = true ↔ ∃ texts : List String, items = texts.map .string := by
  constructor
  · intro h
    induction items with
    | nil => exact ⟨[], rfl⟩
    | cons v items ih =>
      rw [List.all_cons, Bool.and_eq_true] at h
      obtain ⟨texts, rfl⟩ := ih h.2
      cases v with
      | string s => exact ⟨s :: texts, rfl⟩
      | _ => cases h.1
  · rintro ⟨texts, rfl⟩
    simp [isText]

theorem check_iff {kind : Kind} {v : Value} : kind.check v = true ↔ kind.Holds v := by
  constructor
  · intro h
    cases kind with
    | text =>
      cases v with
      | string s => exact .text s
      | _ => cases h
    | list =>
      cases v with
      | array items =>
        obtain ⟨texts, rfl⟩ := all_isText_iff.mp h
        exact .list texts
      | _ => cases h
    | switch =>
      cases v with
      | bool b => exact .switch b
      | _ => cases h
  · intro h
    cases h with
    | text => rfl
    | list texts => exact all_isText_iff.mpr ⟨texts, rfl⟩
    | switch => rfl

instance (kind : Kind) (v : Value) : Decidable (kind.Holds v) :=
  decidable_of_iff _ check_iff

end Kind

def get (s : Settings) : Leaf → Value
  | .doxygen => .string s.extraction.doxygen
  | .sourceDirectory => .string s.extraction.sourceDirectory
  | .sources => textsValue s.extraction.sources
  | .predefined => textsValue s.extraction.predefined
  | .xmlOutput => .string s.extraction.xmlOutput
  | .projectName => .string s.extraction.projectName
  | .description => .bool s.render.description
  | .initializer => .bool s.render.initializer
  | .preconditions => .bool s.render.preconditions
  | .postconditions => .bool s.render.postconditions
  | .returns => .bool s.render.returns

namespace Tree

def at? (t : Tree) (l : Leaf) : Option Tree :=
  (t.child? l.part).bind (·.child? l.key)

def value? : Tree → Option Value
  | leaf _ v => some v
  | table _ _ => none

def setting? (t : Tree) (l : Leaf) : Option Value :=
  (t.at? l).bind value?

inductive Holds (kind : Kind) : Tree → Prop
  | leaf {origin : Origin} {v : Value} : kind.Holds v → Holds kind (.leaf origin v)

instance (kind : Kind) : DecidablePred (Holds kind)
  | .leaf _ v => decidable_of_iff (kind.Holds v) ⟨.leaf, fun | .leaf h => h⟩
  | .table _ _ => isFalse nofun

/-- Under the keys of the settings there are values of their types, in tables; what else there is
does not matter. -/
@[mk_iff] structure IsWellTyped (t : Tree) : Prop where
  isTable : ∀ l : Leaf, ∀ c ∈ t.child? l.part, c.isTable
  holds : ∀ l : Leaf, ∀ x ∈ t.at? l, x.Holds l.kind

instance (t : Tree) : Decidable t.IsWellTyped :=
  decidable_of_iff _ (isWellTyped_iff t).symm

theorem isWellTyped_empty (origin : Origin) : (empty origin).IsWellTyped :=
  ⟨nofun, nofun⟩

theorem overlay_leaf (t : Tree) (origin : Origin) (v : Value) :
    overlay t (leaf origin v) = leaf origin v := by
  cases t <;> rfl

structure IsLayer (t : Tree) : Prop where
  isTable : t.isTable
  isDistinct : t.IsDistinct
  isWellTyped : t.IsWellTyped

theorem isLayer_empty (origin : Origin) : (empty origin).IsLayer :=
  ⟨rfl, .table List.nodup_nil nofun, isWellTyped_empty origin⟩

section

variable {below above : Tree}

theorem at?_overlay (hb : below.IsLayer) (ha : above.IsLayer) (l : Leaf) :
    (overlay below above).at? l = (above.at? l).or (below.at? l) := by
  rw [at?, child?_overlay hb.isTable ha.isTable ha.isDistinct]
  cases ht : above.child? l.part with
  | none => simp [at?, over?, ht]
  | some t =>
    cases hs : below.child? l.part with
    | none => simp [at?, over?, ht, hs]
    | some s =>
      have hkey := child?_overlay (hb.isWellTyped.isTable l s hs) (ha.isWellTyped.isTable l t ht)
        (ha.isDistinct.child? ht) l.key
      have habove : above.at? l = t.child? l.key := by rw [at?, ht, Option.bind_some]
      have hbelow : below.at? l = s.child? l.key := by rw [at?, hs, Option.bind_some]
      rw [over?, Option.bind_some, hkey, habove, hbelow]
      cases hx : t.child? l.key with
      | none => rfl
      | some x =>
        cases ha.isWellTyped.holds l x (habove.trans hx)
        cases s.child? l.key with
        | none => rfl
        | some y => exact congrArg some (overlay_leaf y _ _)

theorem IsLayer.overlay (hb : below.IsLayer) (ha : above.IsLayer) :
    (overlay below above).IsLayer := by
  refine ⟨isTable_overlay ha.isTable, hb.isDistinct.overlay ha.isDistinct, ?_, ?_⟩
  · intro l c hc
    rw [child?_overlay hb.isTable ha.isTable ha.isDistinct] at hc
    cases ht : above.child? l.part with
    | none =>
      rw [ht] at hc
      exact hb.isWellTyped.isTable l c hc
    | some t =>
      have htable := ha.isWellTyped.isTable l t ht
      rw [ht] at hc
      cases hs : below.child? l.part with
      | none =>
        rw [hs] at hc
        obtain rfl := Option.some.inj hc
        exact htable
      | some s =>
        rw [hs] at hc
        obtain rfl := Option.some.inj hc
        exact isTable_overlay htable
  · intro l x hx
    rw [at?_overlay hb ha] at hx
    rcases Option.or_eq_some_iff.mp hx with hx | ⟨-, hx⟩
    · exact ha.isWellTyped.holds l x hx
    · exact hb.isWellTyped.holds l x hx

end

theorem setting?_overlay {below above : Tree} (hb : below.IsLayer) (ha : above.IsLayer) (l : Leaf) :
    (overlay below above).setting? l = (above.setting? l).or (below.setting? l) := by
  rw [setting?, at?_overlay hb ha, setting?, setting?]
  cases hx : above.at? l with
  | none => rfl
  | some x =>
    cases ha.isWellTyped.holds l x hx
    rfl

theorem setting?_foldl_overlay {layers : List Tree} {start : Tree} (hstart : start.IsLayer)
    (hlayers : ∀ t ∈ layers, t.IsLayer) :
    (layers.foldl overlay start).IsLayer ∧ ∀ l, (layers.foldl overlay start).setting? l =
      (layers.reverse.findSome? (·.setting? l)).or (start.setting? l) := by
  induction layers generalizing start with
  | nil => exact ⟨hstart, fun l => rfl⟩
  | cons t layers ih =>
    obtain ⟨ht, hlayers⟩ := List.forall_mem_cons.mp hlayers
    obtain ⟨hlayer, hsetting⟩ := ih (hstart.overlay ht) hlayers
    refine ⟨hlayer, fun l => ?_⟩
    rw [List.foldl_cons, hsetting, setting?_overlay hstart ht, List.reverse_cons,
      List.findSome?_append, List.findSome?_singleton, Option.or_assoc]

end Tree

end SymbolDocs.Settings
