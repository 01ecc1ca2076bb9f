import Mathlib.Data.List.Forall2
import SymbolDocs.Proofs.CommandLine.Spelling
/-!
Command lines written for an invocation. The options for logging and configuration may stand before
or behind the name of the command, in any order and spelling; whatever the placement, reading the
arguments gives the invocation back.
-/

namespace SymbolDocs

namespace CommandLine

theorem head?_of_mem_spellings {o : Item} {w : String} (h : w ∈ o.spellings) :
    w.toList.head? = some '-' := by
  cases o <;> simp only [Item.spellings, List.mem_cons, List.not_mem_nil, or_false] at h <;>
    rcases h with rfl | rfl <;> simp

theorem head?_of_commandOf? {w : String} {level : Level} (h : commandOf? w = some level) :
    w.toList.head? ≠ some '-' := by
  unfold commandOf? at h
  split at h
  · decide
  · decide
  · decide
  · cases h

/-- The arguments ask for these options, one each. -/
abbrev Spells (os : List Item) (ws : List String) : Prop :=
  List.Forall₂ (fun o w => w ∈ o.spellings) os ws

theorem programLevel_spells {os : List Item} {ws : List String} (h : Spells os ws) {g : Given}
    (hfits : Fits .program g os) (rest : List String) :
    programLevel ⟨g, .nothing, false⟩ (ws ++ rest) =
      programLevel ⟨os.foldl Given.add g, .nothing, false⟩ rest := by
  induction h generalizing g with
  | nil => rfl
  | @cons o w os ws hw hws ih =>
    have hhead := head?_of_mem_spellings hw
    have hhelp : (w == "help") = false := by
      rw [beq_eq_false_iff_ne]
      rintro rfl
      exact absurd hhead (by decide)
    have hcommand : commandOf? w = none := by
      rw [Option.eq_none_iff_forall_ne_some]
      exact fun level hlevel => head?_of_commandOf? hlevel hhead
    rw [List.cons_append, programLevel, hhelp, Bool.and_false, if_neg Bool.false_ne_true, hcommand]
    simp only [take_spelling hfits hw]
    exact ih hfits.tail

theorem commandLevel_spells {level : Level} {os : List Item} {ws : List String}
    (h : Spells os ws) {g : Given} (hfits : Fits level g os) (rest : List String) :
    commandLevel level ⟨g, .nothing, false⟩ (ws ++ rest) =
      commandLevel level ⟨os.foldl Given.add g, .nothing, false⟩ rest := by
  induction h generalizing g with
  | nil => rfl
  | @cons o w os ws hw hws ih =>
    rw [List.cons_append, commandLevel, take_spelling hfits hw]
    exact ih hfits.tail

theorem commandLevel_trailing (g : Given) (ids : List String) :
    commandLevel .collect ⟨g, .nothing, true⟩ ids =
      commandLevel .collect ⟨{ g with identifiers := g.identifiers ++ ids }, .nothing, true⟩ [] := by
  induction ids generalizing g with
  | nil => rw [List.append_nil]
  | cons id ids ih =>
    rw [commandLevel]
    change commandLevel .collect
      ⟨{ g with identifiers := g.identifiers ++ [id] }, .nothing, true⟩ ids = _
    rw [ih, List.append_assoc]
    rfl

theorem commandLevel_hyphens (level : Level) (g : Given) (rest : List String) :
    commandLevel level ⟨g, .nothing, false⟩ ("--" :: rest) =
      commandLevel level ⟨g, .nothing, true⟩ rest := by
  rfl

theorem finish_ok {g : Given} {trailing : Bool} (hquiet : (g.quiet && g.verbose) = false) :
    State.finish ⟨g, .nothing, trailing⟩ = .ok g := by
  simp [State.finish, State.settle, hquiet, bind, Except.bind]

theorem commandLevel_nil {level : Level} {g : Given} {trailing : Bool}
    (hquiet : (g.quiet && g.verbose) = false) (hids : level = .collect → g.identifiers ≠ []) :
    commandLevel level ⟨g, .nothing, trailing⟩ [] = .ok g := by
  rw [commandLevel, finish_ok hquiet]
  exact if_neg fun ⟨hlevel, hempty⟩ => hids hlevel (List.isEmpty_iff.mp hempty)

end CommandLine

open CommandLine (Item Given Fits Spells)

namespace Command

def word : Command → String
  | extract => "extract"
  | collect _ _ _ => "collect"
  | list _ => "list"

def level : Command → CommandLine.Level
  | extract => .extract
  | collect _ _ _ => .collect
  | list _ => .list

def items : Command → List Item
  | extract => []
  | collect _ xmlDir isPretty =>
    (xmlDir.map Item.xmlDir).toList ++ if isPretty then [.pretty] else []
  | list xmlDir => (xmlDir.map Item.xmlDir).toList

def identifiers : Command → List String
  | collect ids _ _ => ids
  | _ => []

def endings (c : Command) : List (List String) :=
  if c.identifiers = [] then [[], ["--"]] else ["--" :: c.identifiers]

theorem isAllowed_of_mem_items {c : Command} {o : Item} (h : o ∈ c.items) :
    o.IsAllowed c.level := by
  cases c <;> cases o <;> simp_all [items, level, Item.IsAllowed]

end Command

namespace Invocation

def items (i : Invocation) : List Item :=
  (if i.quiet then [.quiet] else []) ++ (if i.verbose then [.verbose] else []) ++
    (i.config.map Item.config).toList ++ i.command.items

structure IsSayable (i : Invocation) : Prop where
  quiet_verbose : (i.quiet && i.verbose) = false
  value_ne : ∀ o ∈ i.items, o.value? ≠ some ""
  identifiers_ne : ∀ identifiers xmlDir isPretty,
    i.command = .collect identifiers xmlDir isPretty → identifiers ≠ []

/-- The arguments that ask for the invocation. Each option stands once, those of the command behind
its name, the others before or behind it. -/
inductive Writes (i : Invocation) : List String → Prop
  | placed {before after : List Item} {front back ending : List String} :
    (before ++ after).Perm i.items → (∀ o ∈ before, o.isGlobal) →
    Spells before front → Spells after back → ending ∈ i.command.endings →
    Writes i (front ++ i.command.word :: (back ++ ending))

theorem nodup_items (i : Invocation) : (i.items.map Item.opt).Nodup := by
  obtain ⟨command, quiet, verbose, config⟩ := i
  cases command with
  | extract =>
    cases quiet <;> cases verbose <;> cases config <;> simp [items, Command.items, Item.opt]
  | collect identifiers xmlDir isPretty =>
    cases quiet <;> cases verbose <;> cases config <;> cases xmlDir <;> cases isPretty <;>
      simp [items, Command.items, Item.opt]
  | list xmlDir =>
    cases quiet <;> cases verbose <;> cases config <;> cases xmlDir <;>
      simp [items, Command.items, Item.opt]

theorem mem_items {i : Invocation} {o : Item} :
    o ∈ i.items ↔ (o = .quiet ∧ i.quiet) ∨ (o = .verbose ∧ i.verbose) ∨
      (∃ file, i.config = some file ∧ o = .config file) ∨ o ∈ i.command.items := by
  have hif (b : Bool) (p : Item) : o ∈ (if b then [p] else []) ↔ o = p ∧ b := by
    cases b <;> simp
  simp only [items, List.mem_append, or_assoc, hif, Option.mem_toList, Option.map_eq_some_iff,
    eq_comm (b := o)]

theorem quiet_mem_items {i : Invocation} : .quiet ∈ i.items ↔ i.quiet = true := by
  cases hcommand : i.command <;> simp [mem_items, Command.items, hcommand]

theorem verbose_mem_items {i : Invocation} : .verbose ∈ i.items ↔ i.verbose = true := by
  cases hcommand : i.command <;> simp [mem_items, Command.items, hcommand]

theorem isAllowed_of_mem_items {i : Invocation} {o : Item} (h : o ∈ i.items) :
    o.IsAllowed i.command.level := by
  rcases mem_items.mp h with ⟨rfl, -⟩ | ⟨rfl, -⟩ | ⟨file, -, rfl⟩ | h
  · trivial
  · trivial
  · trivial
  · exact Command.isAllowed_of_mem_items h

end Invocation

namespace CommandLine

theorem programLevel_word (g : Given) (c : Command) (rest : List String) :
    programLevel ⟨g, .nothing, false⟩ (c.word :: rest) = (do
      let inner ← commandLevel c.level {} rest
      let outer ← State.finish ⟨g, .nothing, false⟩
      invocation c.level outer inner) := by
  cases c <;> rfl

theorem commandLevel_ending {c : Command} {g : Given} {ending : List String}
    (hending : ending ∈ c.endings) (hg : g.identifiers = [])
    (hquiet : (g.quiet && g.verbose) = false)
    (hids : ∀ ids xmlDir isPretty, c = .collect ids xmlDir isPretty → ids ≠ []) :
    commandLevel c.level ⟨g, .nothing, false⟩ ending =
      .ok { g with identifiers := c.identifiers } := by
  have hbare (level : Level) (hlevel : level ≠ .collect) (hending : ending ∈ [[], ["--"]]) :
      commandLevel level ⟨g, .nothing, false⟩ ending = .ok { g with identifiers := [] } := by
    rw [← hg]
    rcases List.mem_pair.mp hending with rfl | rfl
    · exact commandLevel_nil hquiet fun h => absurd h hlevel
    · rw [commandLevel_hyphens]
      exact commandLevel_nil hquiet fun h => absurd h hlevel
  cases c with
  | extract => exact hbare .extract (by decide) hending
  | list xmlDir => exact hbare .list (by decide) hending
  | collect ids xmlDir isPretty =>
    have hne := hids ids xmlDir isPretty rfl
    rw [Command.endings, Command.identifiers, if_neg hne] at hending
    obtain rfl := List.mem_singleton.mp hending
    rw [commandLevel_hyphens, Command.level, commandLevel_trailing, hg, List.nil_append]
    exact commandLevel_nil hquiet fun _ => hne

theorem or_eq_of_forall {α : Type} {a b c : Option α}
    (h : ∀ v, b = some v ∨ a = some v ↔ c = some v) : a.or b = c := by
  cases a with
  | some v => exact ((h v).mp (.inr rfl)).symm
  | none =>
    ext v
    simpa using h v

theorem invocation_eq {i : Invocation} {outer inner : Given}
    (hitems : ∀ o, outer.Holds o ∨ inner.Holds o ↔ o ∈ i.items)
    (hglobal : ∀ o, outer.Holds o → o.isGlobal)
    (hids : inner.identifiers = i.command.identifiers) :
    invocation i.command.level outer inner = .ok i := by
  obtain ⟨command, quiet, verbose, config⟩ := i
  have hquiet : (outer.quiet || inner.quiet) = quiet := by
    rw [Bool.eq_iff_iff, Bool.or_eq_true]
    exact (hitems .quiet).trans Invocation.quiet_mem_items
  have hverbose : (outer.verbose || inner.verbose) = verbose := by
    rw [Bool.eq_iff_iff, Bool.or_eq_true]
    exact (hitems .verbose).trans Invocation.verbose_mem_items
  have hconfig : inner.config.or outer.config = config :=
    or_eq_of_forall fun file => (hitems (.config file)).trans
      (by cases command <;> simp [Invocation.mem_items, Command.items])
  have hlocal (o : Item) (ho : o.isGlobal = false) :
      inner.Holds o ↔ o ∈ Invocation.items ⟨command, quiet, verbose, config⟩ := by
    rw [← hitems]
    refine ⟨.inr, fun h => h.resolve_left fun houter => ?_⟩
    rw [hglobal o houter] at ho
    cases ho
  cases command with
  | extract => simp [invocation, Command.level, hquiet, hverbose, hconfig]
  | list xmlDir =>
    have hdir : inner.xmlDir = xmlDir := by
      ext dir
      exact (hlocal (.xmlDir dir) rfl).trans (by simp [Invocation.mem_items, Command.items])
    simp [invocation, Command.level, hquiet, hverbose, hconfig, hdir]
  | collect ids xmlDir isPretty =>
    have hdir : inner.xmlDir = xmlDir := by
      ext dir
      exact (hlocal (.xmlDir dir) rfl).trans (by simp [Invocation.mem_items, Command.items])
    have hpretty : inner.pretty = isPretty := by
      rw [Bool.eq_iff_iff]
      exact (hlocal .pretty rfl).trans (by simp [Invocation.mem_items, Command.items])
    simp [invocation, Command.level, hquiet, hverbose, hconfig, hdir, hpretty, hids,
      Command.identifiers]

end CommandLine

/-- Wherever the options stand, in whatever order and spelling, the arguments are read as the
invocation that they ask for. -/
theorem parse_of_writes {i : Invocation} {arguments : List String} (hi : i.IsSayable)
    (h : i.Writes arguments) : CommandLine.parse arguments = .ok i := by
  obtain ⟨hperm, hglobal, hfront, hback, hending⟩ := h
  next before after front back ending =>
  have hmem (o : Item) : o ∈ before ++ after ↔ o ∈ i.items := hperm.mem_iff
  have hnodup : (before.map Item.opt ++ after.map Item.opt).Nodup := by
    rw [← List.map_append]
    exact (hperm.map Item.opt).nodup_iff.mpr i.nodup_items
  have hbefore : Fits .program {} before := by
    refine ⟨hnodup.of_append_left, ?_, ?_, fun o _ => Given.has_empty o⟩
    · exact fun o ho => Item.isAllowed_of_isGlobal (hglobal o ho)
    · exact fun o ho => hi.value_ne o ((hmem o).mp (List.mem_append_left after ho))
  have hafter : Fits i.command.level {} after := by
    refine ⟨hnodup.of_append_right, ?_, ?_, fun o _ => Given.has_empty o⟩
    · exact fun o ho => Invocation.isAllowed_of_mem_items
        ((hmem o).mp (List.mem_append_right before ho))
    · exact fun o ho => hi.value_ne o ((hmem o).mp (List.mem_append_right before ho))
  let outer := before.foldl Given.add {}
  let inner := after.foldl Given.add {}
  have houter (o : Item) : outer.Holds o ↔ o ∈ before := by
    simpa [Given.not_holds_empty] using hbefore.holds_foldl o
  have hinner (o : Item) : inner.Holds o ↔ o ∈ after := by
    simpa [Given.not_holds_empty] using hafter.holds_foldl o
  have hcalm (g : Given) (hg : ∀ o, g.Holds o → o ∈ i.items) : (g.quiet && g.verbose) = false := by
    rw [← Bool.not_eq_true, Bool.and_eq_true]
    rintro ⟨hquiet, hverbose⟩
    have hboth := hi.quiet_verbose
    rw [Invocation.quiet_mem_items.mp (hg .quiet hquiet),
      Invocation.verbose_mem_items.mp (hg .verbose hverbose)] at hboth
    cases hboth
  have hcommand : CommandLine.commandLevel i.command.level {} (back ++ ending) =
      .ok { inner with identifiers := i.command.identifiers } := by
    rw [CommandLine.commandLevel_spells hback hafter]
    apply CommandLine.commandLevel_ending hending (CommandLine.identifiers_foldl after {})
    · exact hcalm inner fun o ho => (hmem o).mp (List.mem_append_right before ((hinner o).mp ho))
    · exact hi.identifiers_ne
  have hfinish : CommandLine.State.finish ⟨outer, .nothing, false⟩ = .ok outer :=
    CommandLine.finish_ok (hcalm outer fun o ho =>
      (hmem o).mp (List.mem_append_left after ((houter o).mp ho)))
  rw [CommandLine.parse, CommandLine.programLevel_spells hfront hbefore,
    CommandLine.programLevel_word, hcommand]
  change (do
    let outer ← CommandLine.State.finish ⟨outer, .nothing, false⟩
    CommandLine.invocation i.command.level outer _) = _
  rw [hfinish]
  apply CommandLine.invocation_eq
  · intro o
    rw [← hmem, List.mem_append, ← houter, ← hinner]
    cases o <;> rfl
  · exact fun o ho => hglobal o ((houter o).mp ho)
  · rfl

def hyphenatedSymbols : Invocation :=
  ⟨.collect ["-q", "--", "list", ""] (some "out/xml") true, false, true, some "a=b.toml"⟩

theorem parse_of_writes_hyphenatedSymbols :
    hyphenatedSymbols.IsSayable ∧
      hyphenatedSymbols.Writes ["-c=a=b.toml", "collect", "--pretty", "-v", "--xml-dir=out/xml",
        "--", "-q", "--", "list", ""] ∧
      CommandLine.parse ["-c=a=b.toml", "collect", "--pretty", "-v", "--xml-dir=out/xml",
        "--", "-q", "--", "list", ""] = .ok hyphenatedSymbols := by
  have hsayable : hyphenatedSymbols.IsSayable := by
    refine ⟨rfl, by decide, ?_⟩
    intro ids xmlDir isPretty h
    obtain ⟨rfl, -, -⟩ := Command.collect.inj h
    exact List.cons_ne_nil _ _
  have hwrites : hyphenatedSymbols.Writes ["-c=a=b.toml", "collect", "--pretty", "-v",
      "--xml-dir=out/xml", "--", "-q", "--", "list", ""] := by
    refine @Invocation.Writes.placed hyphenatedSymbols [.config "a=b.toml"]
      [.pretty, .verbose, .xmlDir "out/xml"] ["-c=a=b.toml"]
      ["--pretty", "-v", "--xml-dir=out/xml"] ["--", "-q", "--", "list", ""]
      (by decide) (by decide) ?_ ?_ (by decide)
    · exact .cons (by decide) .nil
    · exact .cons (by decide) (.cons (by decide) (.cons (by decide) .nil))
  exact ⟨hsayable, hwrites, parse_of_writes hsayable hwrites⟩

end SymbolDocs
