import Mathlib
import SymbolDocs.Proofs.Settings.OfTree
/-!
Where each setting comes from. Layers whose known settings have the right types always load, and each
setting by itself has the value of the strongest layer that sets it, or its default.
-/

namespace SymbolDocs.Settings

theorem fileLayer?_eq_some {fs : FileSystem} {path found : String} (text : String)
    {written fields : List (String × Value)} (hfound : findFile? fs path = some found)
    (hbytes : fs.readBytes found = .ok text.toUTF8) (hparse : Toml.parse? text = some written)
    (hmeaning : fieldMeanings? written = some fields) :
    fileLayer? fs path = some (.ofValue (.file found) (.table fields)) := by
  rw [fileLayer?, hfound]
  dsimp only
  rw [FileSystem.readText_eq_ok hbytes]
  dsimp only
  rw [hparse, Option.bind_some, hmeaning, Option.map_some]

inductive Found (fs : FileSystem) : Option String → Option Tree → Prop
  | unnamed : Found fs none none
  | absent {path : String} : fs.exists? path = false → Found fs (some path) none
  | present {path : String} {t : Tree} : fs.exists? path = true → fileLayer? fs path = some t →
    Found fs (some path) (some t)

structure Layers where
  user : Option Tree
  project : Option Tree
  explicit : Option Tree
  environment : Tree

namespace Layers

def trees (layers : Layers) : List Tree :=
  layers.user.toList ++ layers.project.toList ++ layers.explicit.toList ++ [layers.environment]

def setting? (layers : Layers) (l : Leaf) : Option Value :=
  (layers.environment.setting? l).or ((layers.explicit.bind (·.setting? l)).or
    ((layers.project.bind (·.setting? l)).or (layers.user.bind (·.setting? l))))

structure AreRead (layers : Layers) (fs : FileSystem) (env : Environment)
    (explicit : Option String) : Prop where
  user : Found fs (userFile? env) layers.user
  project : Found fs (some projectFile) layers.project
  explicit : Found fs explicit layers.explicit
  environment : envLayer? env = some layers.environment

theorem findSome?_toList {α β : Type} (a : Option α) (f : α → Option β) :
    a.toList.findSome? f = a.bind f := by
  cases a with
  | none => rfl
  | some a => simp

theorem findSome?_trees (layers : Layers) (l : Leaf) :
    layers.trees.reverse.findSome? (·.setting? l) = layers.setting? l := by
  have hreverse (t : Option Tree) : t.toList.reverse = t.toList := by cases t <;> rfl
  simp only [trees, List.reverse_append, List.reverse_singleton, hreverse, List.findSome?_append,
    List.findSome?_singleton, findSome?_toList]
  rfl

end Layers

theorem Found.mapM_filter {fs : FileSystem} {path : Option String} {t : Option Tree}
    (h : Found fs path t) :
    (path.toList.filter fs.exists?).mapM (fileLayer? fs) = some t.toList := by
  cases h with
  | unnamed => rfl
  | absent habsent =>
    rw [Option.toList_some, List.filter_singleton, habsent]
    rfl
  | present hpresent ht =>
    rw [Option.toList_some, List.filter_singleton, hpresent]
    simp [ht]

theorem Found.exists_fileLayer? {fs : FileSystem} {path : Option String} {t : Tree}
    (h : Found fs path (some t)) : ∃ p, fileLayer? fs p = some t := by
  cases h with
  | present _ ht => exact ⟨_, ht⟩

namespace Layers.AreRead

variable {layers : Layers} {fs : FileSystem} {env : Environment} {explicit : Option String}
  (h : layers.AreRead fs env explicit)

include h

theorem mapM_layerFiles (hexplicit : ∀ path, explicit = some path → fs.exists? path) :
    ∃ files, (layerFiles fs env explicit).mapM (fileLayer? fs) = some files ∧
      files ++ [layers.environment] = layers.trees := by
  refine ⟨layers.user.toList ++ layers.project.toList ++ layers.explicit.toList, ?_, rfl⟩
  have hall : explicit.toList.filter fs.exists? = explicit.toList :=
    List.filter_eq_self.mpr fun path hpath => hexplicit path (Option.mem_toList.mp hpath)
  have hfiles := h.explicit.mapM_filter
  rw [hall] at hfiles
  have hproject : ([projectFile].filter fs.exists?).mapM (fileLayer? fs) = some _ :=
    h.project.mapM_filter
  rw [layerFiles, List.filter_append, List.mapM_append, List.mapM_append, h.user.mapM_filter,
    hproject, hfiles]
  rfl

theorem isLayer {t : Tree} (ht : t ∈ layers.trees) (hwell : t.IsWellTyped) : t.IsLayer := by
  have hfile {path : Option String} {layer : Option Tree} (hfound : Found fs path layer)
      (hmem : t ∈ layer.toList) : t.IsLayer := by
    obtain rfl := Option.mem_toList.mp hmem
    obtain ⟨p, hp⟩ := hfound.exists_fileLayer?
    obtain ⟨htable, hdistinct⟩ := isDistinct_fileLayer? hp
    exact ⟨htable, hdistinct, hwell⟩
  simp only [trees, List.mem_append, List.mem_singleton] at ht
  rcases ht with ((ht | ht) | ht) | rfl
  · exact hfile h.user ht
  · exact hfile h.project ht
  · exact hfile h.explicit ht
  · obtain ⟨htable, hdistinct⟩ := isDistinct_envLayer? h.environment
    exact ⟨htable, hdistinct, hwell⟩

theorem loadLayers_eq_ok (hexplicit : ∀ path, explicit = some path → fs.exists? path)
    (hwell : ∀ t ∈ layers.trees, t.IsWellTyped) :
    ∃ s, loadLayers fs env explicit = .ok s ∧
      ∀ l, s.get l = (layers.setting? l).getD (({} : Settings).get l) := by
  obtain ⟨files, hfiles, htrees⟩ := h.mapM_layerFiles hexplicit
  obtain ⟨hlayer, hsetting⟩ := Tree.setting?_foldl_overlay (Tree.isLayer_empty .builtIn)
    fun t ht => h.isLayer ht (hwell t ht)
  obtain ⟨s, hs, hget⟩ := ofTree_eq_ok hlayer
  refine ⟨s, ?_, fun l => ?_⟩
  · simp only [loadLayers, h.environment, hfiles, htrees, Tree.ofLayers, hs]
    rfl
  · have hnone : (Tree.empty .builtIn).setting? l = none := rfl
    rw [hget, hsetting, findSome?_trees, hnone, Option.or_none]

end Layers.AreRead

namespace Mode

def environment? (fs : FileSystem) (env : Environment) : Mode → Option Environment
  | environment => some env
  | withDotenv | withFile _ => Dotenv.load? fs env

def explicitFile? : Mode → Option String
  | withFile path => some path
  | environment | withDotenv => none

end Mode

theorem load_eq_loadLayers {fs : FileSystem} {env env' : Environment} {mode : Mode}
    (henv : mode.environment? fs env = some env')
    (hexplicit : ∀ path, mode.explicitFile? = some path → fs.exists? path) :
    load fs env mode = loadLayers fs env' mode.explicitFile? := by
  cases mode with
  | environment =>
    obtain rfl := Option.some.inj henv
    rfl
  | withDotenv =>
    rw [Mode.environment?] at henv
    rw [load, loadWithDotenv, henv]
    rfl
  | withFile path =>
    rw [Mode.environment?] at henv
    rw [load, if_pos (hexplicit path rfl), loadWithDotenv, henv]
    rfl

/-- An explicit file that is not there is reported. Else, if the layers can be read and are well
typed, the settings are loaded: each of them is what the strongest layer that has it says, whatever
the layers say of the others. -/
theorem load_of_layers (fs : FileSystem) (env : Environment) (mode : Mode) :
    (∀ path, mode.explicitFile? = some path → fs.exists? path = false →
      load fs env mode = .error (.missingFile path)) ∧
    ((∀ path, mode.explicitFile? = some path → fs.exists? path) →
      ∀ env' layers, mode.environment? fs env = some env' →
        Layers.AreRead layers fs env' mode.explicitFile? →
        (∀ t ∈ layers.trees, t.IsWellTyped) →
        ∃ s, load fs env mode = .ok s ∧
          ∀ l, s.get l = (layers.setting? l).getD (({} : Settings).get l)) := by
  constructor
  · intro path hpath habsent
    cases mode with
    | withFile p =>
      obtain rfl := Option.some.inj hpath
      rw [load, habsent]
      rfl
    | environment => cases hpath
    | withDotenv => cases hpath
  · intro hexplicit env' layers henv hread hwell
    rw [load_eq_loadLayers henv hexplicit]
    exact hread.loadLayers_eq_ok hexplicit hwell

def userText : String :=
  "[extraction]\ndoxygen = 'dox'\nproject_name = 'user'\nsources = ['a', 'b']\n" ++
    "[render]\nshow_return = false\n"

def projectText : String :=
  "[extraction]\nproject_name = 'project'\n"

def explicitText : String :=
  "colour = 5\n[extraction]\nsources = ['c']\n"

def userFields : List (String × Value) :=
  [("extraction", .table [("doxygen", .string "dox"), ("project_name", .string "user"),
      ("sources", textsValue ["a", "b"])]),
    ("render", .table [("show_return", .bool false)])]

def projectFields : List (String × Value) :=
  [("extraction", .table [("project_name", .string "project")])]

def explicitFields : List (String × Value) :=
  [("colour", .signed 5), ("extraction", .table [("sources", textsValue ["c"])])]

theorem parse?_userText : Toml.parse? userText = some userFields := by cbv

theorem parse?_projectText : Toml.parse? projectText = some projectFields := by cbv

theorem parse?_explicitText : Toml.parse? explicitText = some explicitFields := by cbv

def layeredFiles : FileSystem :=
  ⟨[(["home"], .directory), (["home", "doxymark"], .directory),
    (["home", "doxymark", "config.toml"], .file userText.toUTF8 false),
    ([".doxymark"], .directory), ([".doxymark", "config.toml"], .file projectText.toUTF8 false),
    (["explicit.toml"], .file explicitText.toUTF8 false)], []⟩

def layeredVariables : Environment :=
  [("XDG_CONFIG_HOME", "/home"), ("DOXYMARK_RENDER__SHOW_RETURN", "true")]

def layered : Layers where
  user := some (.ofValue (.file "/home/doxymark/config.toml") (.table userFields))
  project := some (.ofValue (.file "/.doxymark/config.toml") (.table projectFields))
  explicit := some (.ofValue (.file "/explicit.toml") (.table explicitFields))
  environment := .nest .environment ["render", "show_return"] (.leaf .environment (.bool true))

theorem envLayer?_layeredVariables : envLayer? layeredVariables = some layered.environment := by
  have hname : envKey? "XDG_CONFIG_HOME" = none := by decide +kernel
  have hkey : envKey? "DOXYMARK_RENDER__SHOW_RETURN" = some ["render", "show_return"] := by
    decide +kernel
  have hvalue : EnvValue.parse? "true" = some (.bool true) := rfl
  simp only [envLayer?, layeredVariables, List.foldlM_cons, List.foldlM_nil, hname, hkey, hvalue]
  rfl

theorem areRead_layered :
    layered.AreRead layeredFiles layeredVariables (some "explicit.toml") where
  user := by
    rw [show userFile? layeredVariables = some "/home/doxymark/config.toml" by decide +kernel]
    exact .present (by decide +kernel)
      (fileLayer?_eq_some userText (by decide +kernel) rfl parse?_userText rfl)
  project := .present (by decide +kernel)
    (fileLayer?_eq_some projectText (by decide +kernel) rfl parse?_projectText rfl)
  explicit := .present (by decide +kernel)
    (fileLayer?_eq_some explicitText (by decide +kernel) rfl parse?_explicitText rfl)
  environment := envLayer?_layeredVariables

theorem load_of_layers_layered :
    load layeredFiles layeredVariables (.withFile "missing.toml") =
        .error (.missingFile "missing.toml") ∧
      ∃ s, load layeredFiles layeredVariables (.withFile "explicit.toml") = .ok s ∧
        s.get .returns = .bool true ∧ s.get .sources = textsValue ["c"] ∧
        s.get .projectName = .string "project" ∧ s.get .doxygen = .string "dox" ∧
        s.get .xmlOutput = .string "build/doxygen/xml" := by
  constructor
  · exact (load_of_layers layeredFiles layeredVariables (.withFile "missing.toml")).1
      "missing.toml" rfl (by decide +kernel)
  · have hthere : ∀ path, (Mode.withFile "explicit.toml").explicitFile? = some path →
        layeredFiles.exists? path := by
      rintro path ⟨⟩
      decide +kernel
    obtain ⟨s, hs, hget⟩ := (load_of_layers layeredFiles layeredVariables
      (.withFile "explicit.toml")).2 hthere layeredVariables layered rfl areRead_layered
      (by decide +kernel)
    exact ⟨s, hs, hget .returns, hget .sources, hget .projectName, hget .doxygen,
      hget .xmlOutput⟩

end SymbolDocs.Settings
