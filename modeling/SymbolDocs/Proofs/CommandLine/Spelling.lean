import Mathlib.Data.List.Nodup
import SymbolDocs.CommandLine
import SymbolDocs.Proofs.Text.Cut

namespace SymbolDocs

namespace CommandLine

inductive Item where
  | quiet
  | verbose
  | pretty
  | config (file : String)
  | xmlDir (dir : String)
  deriving DecidableEq

namespace Item

def opt : Item → Opt
  | quiet => .flag .quiet
  | verbose => .flag .verbose
  | pretty => .flag .pretty
  | config _ => .setting .config
  | xmlDir _ => .setting .xmlDir

def value? : Item → Option String
  | config file => some file
  | xmlDir dir => some dir
  | _ => none

def spellings : Item → List String
  | quiet => ["--quiet", "-q"]
  | verbose => ["--verbose", "-v"]
  | pretty => ["--pretty"]
  | config file => ["--config=" ++ file, "-c=" ++ file]
  | xmlDir dir => ["--xml-dir=" ++ dir]

def isGlobal : Item → Bool
  | quiet | verbose | config _ => true
  | pretty | xmlDir _ => false

def IsAllowed (level : Level) : Item → Prop
  | pretty => level = .collect
  | xmlDir _ => level = .collect ∨ level = .list
  | _ => True

theorem isAllowed_of_isGlobal {level : Level} {o : Item} (h : o.isGlobal) : o.IsAllowed level := by
  cases o <;> trivial

end Item

def Given.add (g : Given) : Item → Given
  | .quiet => { g with quiet := true }
  | .verbose => { g with verbose := true }
  | .pretty => { g with pretty := true }
  | .config file => { g with config := some file }
  | .xmlDir dir => { g with xmlDir := some dir }

def Given.has (g : Given) : Item → Bool
  | .quiet => g.quiet
  | .verbose => g.verbose
  | .pretty => g.pretty
  | .config _ => g.config.isSome
  | .xmlDir _ => g.xmlDir.isSome

def Given.Holds (g : Given) : Item → Prop
  | .quiet => g.quiet = true
  | .verbose => g.verbose = true
  | .pretty => g.pretty = true
  | .config file => g.config = some file
  | .xmlDir dir => g.xmlDir = some dir

theorem Given.has_add {g : Given} {o p : Item} (hne : o.opt ≠ p.opt) :
    (g.add o).has p = g.has p := by
  cases o <;> cases p <;> first | rfl | exact absurd rfl hne

theorem Given.holds_add {g : Given} {o : Item} (hnew : g.has o = false) (p : Item) :
    (g.add o).Holds p ↔ p = o ∨ g.Holds p := by
  have hvalue (a b : String) {previous : Option String} (h : previous.isSome = false) :
      some a = some b ↔ b = a ∨ previous = some b := by
    rw [Option.isSome_eq_false_iff, Option.isNone_iff_eq_none] at h
    rw [h, Option.some_inj, eq_comm]
    simp
  cases o <;> cases p
  case config.config a b => simpa [add, Holds] using hvalue a b hnew
  case xmlDir.xmlDir a b => simpa [add, Holds] using hvalue a b hnew
  all_goals simp [add, Holds]

theorem Given.has_empty (o : Item) : ({} : Given).has o = false := by
  cases o <;> rfl

theorem Given.not_holds_empty (o : Item) : ¬({} : Given).Holds o := by
  cases o <;> simp [Given.Holds]

theorem Given.identifiers_add (g : Given) (o : Item) : (g.add o).identifiers = g.identifiers := by
  cases o <;> rfl

structure Fits (level : Level) (g : Given) (os : List Item) : Prop where
  nodup : (os.map Item.opt).Nodup
  isAllowed : ∀ o ∈ os, o.IsAllowed level
  value_ne : ∀ o ∈ os, o.value? ≠ some ""
  has_eq : ∀ o ∈ os, g.has o = false

theorem Fits.tail {level : Level} {g : Given} {o : Item} {os : List Item}
    (h : Fits level g (o :: os)) : Fits level (g.add o) os := by
  obtain ⟨ho, hos⟩ := List.nodup_cons.mp h.nodup
  refine ⟨hos, fun p hp => h.isAllowed p (.tail o hp), fun p hp => h.value_ne p (.tail o hp), ?_⟩
  intro p hp
  rw [Given.has_add fun heq => ho (List.mem_map.mpr ⟨p, hp, heq.symm⟩)]
  exact h.has_eq p (.tail o hp)

theorem Fits.holds_foldl {level : Level} {g : Given} {os : List Item} (h : Fits level g os)
    (p : Item) : (os.foldl Given.add g).Holds p ↔ p ∈ os ∨ g.Holds p := by
  induction os generalizing g with
  | nil => simp
  | cons o os ih =>
    rw [List.foldl_cons, ih h.tail, Given.holds_add (h.has_eq o List.mem_cons_self),
      List.mem_cons]
    tauto

theorem identifiers_foldl (os : List Item) (g : Given) :
    (os.foldl Given.add g).identifiers = g.identifiers := by
  induction os generalizing g with
  | nil => rfl
  | cons o os ih => rw [List.foldl_cons, ih, Given.identifiers_add]

theorem raise_ok {g g' : Given} {f : Flag} (h : g.raise f = .ok g') :
    State.raise ⟨g, .nothing, false⟩ f = .ok ⟨g', .nothing, false⟩ := by
  simp [State.raise, State.settle, h, bind, Except.bind]

theorem assign_ok {g g' : Given} {setting : Setting} {value : String}
    (h : g.set setting value = .ok g') :
    State.assign ⟨g, .nothing, false⟩ setting value = .ok ⟨g', .nothing, false⟩ := by
  simp [State.assign, State.settle, h, bind, Except.bind]

section

variable {level : Level} {g g' : Given} {w : String}

theorem take_longFlag {f : Flag} (name : List Char) (hw : w.toList = '-' :: '-' :: name)
    (hname : name ≠ []) (hcut : Text.cutAt '=' name = none)
    (hopt : longOption? level (String.ofList name) = some (.flag f)) (h : g.raise f = .ok g') :
    State.take level ⟨g, .nothing, false⟩ w = .ok ⟨g', .nothing, false⟩ := by
  obtain ⟨c, name, rfl⟩ := List.exists_cons_of_ne_nil hname
  simp only [State.take, hw, longArgument, hcut, hopt, raise_ok h]
  simp

theorem take_shortFlag {f : Flag} (c : Char) (hw : w.toList = ['-', c]) (hc : c ≠ '-')
    (hopt : shortOption? level c = some (.flag f)) (h : g.raise f = .ok g') :
    State.take level ⟨g, .nothing, false⟩ w = .ok ⟨g', .nothing, false⟩ := by
  simp [State.take, hw, hc, shortArgument, hopt, raise_ok h, bind, Except.bind]

theorem take_longSetting {setting : Setting} {value : String} (name : List Char)
    (hw : w.toList = '-' :: '-' :: (name ++ '=' :: value.toList)) (hname : '=' ∉ name)
    (hopt : longOption? level (String.ofList name) = some (.setting setting))
    (h : g.set setting value = .ok g') :
    State.take level ⟨g, .nothing, false⟩ w = .ok ⟨g', .nothing, false⟩ := by
  have hlong : longArgument level ⟨g, .nothing, false⟩ (name ++ '=' :: value.toList) =
      .ok ⟨g', .nothing, false⟩ := by
    simp only [longArgument, Text.cutAt_append hname, hopt, String.ofList_toList, assign_ok h]
  cases name with
  | nil => simpa [State.take, hw] using hlong
  | cons c name => simpa [State.take, hw] using hlong

theorem take_shortSetting {setting : Setting} {value : String} (c : Char)
    (hw : w.toList = '-' :: c :: '=' :: value.toList) (hc : c ≠ '-')
    (hopt : shortOption? level c = some (.setting setting)) (h : g.set setting value = .ok g') :
    State.take level ⟨g, .nothing, false⟩ w = .ok ⟨g', .nothing, false⟩ := by
  simp [State.take, hw, shortArgument, hopt, assign_ok h]

end

theorem take_spelling {level : Level} {g : Given} {o : Item} {os : List Item}
    (h : Fits level g (o :: os)) {w : String} (hw : w ∈ o.spellings) :
    State.take level ⟨g, .nothing, false⟩ w = .ok ⟨g.add o, .nothing, false⟩ := by
  have hallowed := h.isAllowed o List.mem_cons_self
  have hvalue := h.value_ne o List.mem_cons_self
  have hnew := h.has_eq o List.mem_cons_self
  cases o with
  | quiet =>
    have hset : g.raise .quiet = .ok (g.add .quiet) := if_neg (by simpa [Given.has] using hnew)
    rcases List.mem_pair.mp hw with rfl | rfl
    · exact take_longFlag ['q', 'u', 'i', 'e', 't'] rfl (by simp) rfl rfl hset
    · exact take_shortFlag 'q' rfl (by decide) rfl hset
  | verbose =>
    have hset : g.raise .verbose = .ok (g.add .verbose) := if_neg (by simpa [Given.has] using hnew)
    rcases List.mem_pair.mp hw with rfl | rfl
    · exact take_longFlag ['v', 'e', 'r', 'b', 'o', 's', 'e'] rfl (by simp) rfl rfl hset
    · exact take_shortFlag 'v' rfl (by decide) rfl hset
  | pretty =>
    have hset : g.raise .pretty = .ok (g.add .pretty) := if_neg (by simpa [Given.has] using hnew)
    obtain rfl := List.mem_singleton.mp hw
    exact take_longFlag ['p', 'r', 'e', 't', 't', 'y'] rfl (by simp) rfl (if_pos hallowed) hset
  | config file =>
    have hset : g.set .config file = .ok (g.add (.config file)) := by
      have hne : file ≠ "" := fun heq => hvalue (congrArg some heq)
      have hnone : g.config.isSome = false := hnew
      simp [Given.set, Given.add, hne, hnone]
    rcases List.mem_pair.mp hw with rfl | rfl
    · exact take_longSetting ['c', 'o', 'n', 'f', 'i', 'g'] (by simp) (by decide) rfl hset
    · exact take_shortSetting 'c' (by simp) (by decide) rfl hset
  | xmlDir dir =>
    have hset : g.set .xmlDir dir = .ok (g.add (.xmlDir dir)) := by
      have hne : dir ≠ "" := fun heq => hvalue (congrArg some heq)
      have hnone : g.xmlDir.isSome = false := hnew
      simp [Given.set, Given.add, hne, hnone]
    obtain rfl := List.mem_singleton.mp hw
    exact take_longSetting ['x', 'm', 'l', '-', 'd', 'i', 'r'] (by simp) (by decide)
      (if_pos hallowed) hset

end CommandLine

end SymbolDocs
