import SymbolDocs.Extraction
import SymbolDocs.Proofs.Outcome
import SymbolDocs.Proofs.Text.Cut
/-!
The configuration of an extraction as the extractor reads it: an assignment on each line, and the items
of a list between blanks. Nothing is escaped in it and only the symbols are quoted, so it says what the
settings say unless one of them holds what separates lines, items or quotes.
-/

namespace SymbolDocs.Doxyfile

open Text (joinWith splitOn)

def keys : List String :=
  ["PROJECT_NAME", "GENERATE_XML", "GENERATE_LATEX", "GENERATE_HTML", "INCLUDE_PATH", "INPUT",
    "XML_OUTPUT", "EXTRACT_ALL", "QUIET", "AUTOLINK_SUPPORT", "MACRO_EXPANSION",
    "SKIP_FUNCTION_MACROS", "PREDEFINED"]

def assignment? (line : List Char) : Option (String × String) :=
  match Text.cutAt ' ' line with
  | some (key, '=' :: ' ' :: value) => some (String.ofList key, String.ofList value)
  | _ => none

def lines (s : List Char) : List (List Char) :=
  if (splitOn '\n' s).getLast? = some [] then (splitOn '\n' s).dropLast else splitOn '\n' s

def read (text : String) : List (Option (String × String)) :=
  (lines text.toList).map assignment?

def isGap (c : Char) : Bool :=
  c == ' ' || c == '\t'

def itemsFrom (quoted : Bool) (item : Option (List Char)) : List Char → List (List Char)
  | [] => item.toList
  | c :: s =>
    if c = '"' then itemsFrom (!quoted) (some (item.getD [])) s
    else if isGap c && !quoted then item.toList ++ itemsFrom false none s
    else itemsFrom quoted (some (item.getD [] ++ [c])) s

def items (value : String) : List String :=
  (itemsFrom false none value.toList).map String.ofList

structure IsFor (output : String) (s : ExtractionSettings) (d : Doxyfile) : Prop where
  keys : d.map (·.1) = keys
  projectName : d.lookup "PROJECT_NAME" = some s.projectName
  includePath : d.lookup "INCLUDE_PATH" = some s.sourceDirectory
  input : d.lookup "INPUT" = some (joinWith " " s.sources)
  xmlOutput : d.lookup "XML_OUTPUT" = some output
  predefined : d.lookup "PREDEFINED" = some (predefinedValue s.predefined)

theorem exists_absolute (cwd : List String) {path : String} (h : path ≠ "") :
    ∃ whole, Path.absolute cwd path = .ok whole := by
  rw [Path.absolute, if_neg h]
  exact ⟨_, rfl⟩

theorem exists_isFor {cwd : List String} {s : ExtractionSettings} {output : String}
    (h : Path.absolute cwd s.xmlOutput = .ok output) :
    ∃ d, ofSettings cwd s = .ok d ∧ IsFor output s d := by
  refine ⟨_, bind_eq_ok.mpr ⟨output, h, rfl⟩, ?_⟩
  constructor <;> rfl

section Lines

def lineOf (a : String × String) : List Char :=
  a.1.toList ++ ' ' :: '=' :: ' ' :: a.2.toList

theorem toList_text (d : Doxyfile) : d.text.toList = (d.map lineOf).flatMap (· ++ ['\n']) := by
  rw [text, Text.toList_joinWith_empty, List.flatMap_map, List.flatMap_map]
  apply List.flatMap_congr
  intro a _
  simp [line, lineOf]

theorem splitOn_lines (ls : List (List Char)) :
    splitOn '\n' (ls.flatMap (· ++ ['\n'])) = ls.flatMap (splitOn '\n') ++ [[]] := by
  induction ls with
  | nil => rfl
  | cons l ls ih =>
    rw [List.flatMap_cons, List.append_assoc, List.singleton_append, Text.splitOn_append_cons, ih,
      List.flatMap_cons, List.append_assoc]

theorem lines_text (d : Doxyfile) : lines d.text.toList = (d.map lineOf).flatMap (splitOn '\n') := by
  rw [lines, toList_text, splitOn_lines, if_pos (by simp), List.dropLast_concat]

theorem assignment?_lineOf {a : String × String} (h : ' ' ∉ a.1.toList) :
    assignment? (lineOf a) = some a := by
  rw [assignment?, lineOf, Text.cutAt_append h]
  simp

theorem not_mem_lineOf_iff {a : String × String} (h : '\n' ∉ a.1.toList) :
    '\n' ∉ lineOf a ↔ '\n' ∉ a.2.toList := by
  simp [lineOf, h]

variable {output : String} {s : ExtractionSettings} {d : Doxyfile}

theorem IsFor.key_mem (h : IsFor output s d) {a : String × String} (ha : a ∈ d) : a.1 ∈ Doxyfile.keys := by
  rw [← h.keys]
  exact List.mem_map_of_mem ha

theorem not_mem_key {key : String} (h : key ∈ keys) : ' ' ∉ key.toList ∧ '\n' ∉ key.toList := by
  have hall : keys.all fun key => !key.toList.contains ' ' && !key.toList.contains '\n' := by
    decide +kernel
  have hkey := List.all_eq_true.mp hall key h
  simpa using hkey

theorem read_text (h : IsFor output s d) (hline : ∀ a ∈ d, '\n' ∉ a.2.toList) :
    read d.text = d.map some := by
  have hlines : lines d.text.toList = d.map lineOf := by
    have hone : ∀ a ∈ d, splitOn '\n' (lineOf a) = [lineOf a] := by
      intro a ha
      apply Text.splitOn_of_not_mem
      exact (not_mem_lineOf_iff (not_mem_key (h.key_mem ha)).2).mpr (hline a ha)
    rw [lines_text, List.flatMap_map, List.flatMap_congr hone, List.map_eq_flatMap]
  rw [read, hlines, List.map_map]
  apply List.map_congr_left
  intro a ha
  exact assignment?_lineOf (not_mem_key (h.key_mem ha)).1

theorem eq_of_read (h : IsFor output s d) (hline : ∀ a ∈ d, '\n' ∉ a.2.toList) {d' : Doxyfile}
    (hread : read d.text = d'.map some) : d' = d := by
  have hmap := hread.symm.trans (read_text h hline)
  exact (List.map_inj_right fun _ _ => Option.some.inj).mp hmap

theorem length_flatMap_splitOn (sep : Char) (ls : List (List Char)) :
    (ls.flatMap (splitOn sep)).length = ls.length + ls.flatten.count sep := by
  induction ls with
  | nil => rfl
  | cons l ls ih =>
    rw [List.flatMap_cons, List.length_append, ih, Text.length_splitOn, List.flatten_cons,
      List.count_append, List.length_cons]
    omega

theorem not_mem_of_length_read (h : IsFor output s d) (hlength : (read d.text).length = d.length) :
    ∀ a ∈ d, '\n' ∉ a.2.toList := by
  intro a ha
  rw [read, List.length_map, lines_text, length_flatMap_splitOn, List.length_map] at hlength
  have hcount : (d.map lineOf).flatten.count '\n' = 0 := by omega
  have hnone := List.count_eq_zero.mp hcount
  rw [← not_mem_lineOf_iff (not_mem_key (h.key_mem ha)).2]
  intro hmem
  exact hnone (List.mem_flatten.mpr ⟨lineOf a, List.mem_map_of_mem ha, hmem⟩)

end Lines

section Items

theorem not_mem_of_mem_itemsFrom {quoted : Bool} {item : Option (List Char)} {s w : List Char}
    (hitem : ∀ i ∈ item, '"' ∉ i) (h : w ∈ itemsFrom quoted item s) : '"' ∉ w := by
  induction s generalizing quoted item with
  | nil => exact hitem w (by simpa [itemsFrom] using h)
  | cons c s ih =>
    have hbegun : '"' ∉ item.getD [] := by
      cases item with
      | none => simp
      | some i => exact hitem i rfl
    rw [itemsFrom] at h
    split at h
    · exact ih (by simpa using hbegun) h
    · next hc =>
      split at h
      · rcases List.mem_append.mp h with h | h
        · exact hitem w (by simpa using h)
        · exact ih (by simp) h
      · exact ih (by simpa [hbegun] using Ne.symm hc) h

def IsPlain (w : List Char) : Prop :=
  w ≠ [] ∧ ∀ c ∈ w, isGap c = false ∧ c ≠ '"'

theorem isPlain_of_mem_itemsFrom {item : Option (List Char)} {s w : List Char}
    (hitem : ∀ i ∈ item, IsPlain i) (hs : '"' ∉ s) (h : w ∈ itemsFrom false item s) :
    IsPlain w := by
  induction s generalizing item with
  | nil => exact hitem w (by simpa [itemsFrom] using h)
  | cons c s ih =>
    obtain ⟨hc, hs⟩ := not_or.mp (List.mem_cons.not.mp hs)
    rw [itemsFrom, if_neg (Ne.symm hc)] at h
    split at h
    · rcases List.mem_append.mp h with h | h
      · exact hitem w (by simpa using h)
      · exact ih (by simp) hs h
    · next hgap =>
      have hc' : isGap c = false ∧ c ≠ '"' := ⟨by simpa using hgap, Ne.symm hc⟩
      have hnext : IsPlain (item.getD [] ++ [c]) := by
        refine ⟨by simp, ?_⟩
        rw [List.forall_mem_append, List.forall_mem_singleton]
        cases item with
        | none => exact ⟨by simp, hc'⟩
        | some i => exact ⟨(hitem i rfl).2, hc'⟩
      exact ih (by simpa using hnext) hs h

theorem itemsFrom_append {quoted : Bool} {w : List Char}
    (h : ∀ c ∈ w, c ≠ '"' ∧ (isGap c && !quoted) = false) (i s : List Char) :
    itemsFrom quoted (some i) (w ++ s) = itemsFrom quoted (some (i ++ w)) s := by
  induction w generalizing i with
  | nil => simp
  | cons c w ih =>
    rw [List.forall_mem_cons] at h
    rw [List.cons_append, itemsFrom, if_neg h.1.1, if_neg (by simp [h.1.2]), Option.getD_some,
      ih h.2, List.append_assoc, List.singleton_append]

def Spells (t w : List Char) : Prop :=
  ∀ s, itemsFrom false none (t ++ s) = itemsFrom false (some w) s

theorem IsPlain.spells {w : List Char} (h : IsPlain w) : Spells w w := by
  intro s
  obtain ⟨hne, hplain⟩ := h
  cases w with
  | nil => exact absurd rfl hne
  | cons c w =>
    rw [List.forall_mem_cons] at hplain
    have hrest : ∀ c ∈ w, c ≠ '"' ∧ (isGap c && !false) = false :=
      fun c hc => ⟨(hplain.2 c hc).2, by simp [(hplain.2 c hc).1]⟩
    rw [List.cons_append, itemsFrom, if_neg hplain.1.2, if_neg (by simp [hplain.1.1])]
    exact itemsFrom_append hrest [c] s

theorem spells_quoted {w : List Char} (h : '"' ∉ w) : Spells ('"' :: w ++ ['"']) w := by
  intro s
  have hinside : ∀ c ∈ w, c ≠ '"' ∧ (isGap c && !true) = false :=
    fun c hc => ⟨fun heq => h (heq ▸ hc), by simp⟩
  have hopen := itemsFrom_append hinside [] ('"' :: s)
  simp [itemsFrom, hopen]

theorem items_joinWith {ts : List String} {ws : List String}
    (h : List.Forall₂ (fun t w => Spells t.toList w.toList) ts ws) :
    items (joinWith " " ts) = ws := by
  have hfrom : itemsFrom false none (joinWith " " ts).toList = ws.map String.toList := by
    induction h with
    | nil => rfl
    | @cons t w ts ws ht hts ih =>
      cases hts with
      | nil => simpa [joinWith, itemsFrom] using ht []
      | cons ht' hts' =>
        rw [Text.joinWith_cons (List.cons_ne_nil _ _), String.toList_append, String.toList_append,
          List.append_assoc, ht, List.map_cons, ← ih]
        simp [itemsFrom, isGap]
  rw [items, hfrom, List.map_map]
  simp [Function.comp_def]

theorem items_sources_iff {ss : List String} (hne : ∀ s ∈ ss, s ≠ "") :
    items (joinWith " " ss) = ss ↔ ∀ s ∈ ss, ∀ c ∈ s.toList, isGap c = false ∧ c ≠ '"' := by
  constructor
  · intro h
    have hmem : ∀ s ∈ ss, s.toList ∈ itemsFrom false none (joinWith " " ss).toList := by
      intro s hs
      rw [← h] at hs
      obtain ⟨w, hw, rfl⟩ := List.mem_map.mp hs
      simpa using hw
    -- No item holds a quote, so there is none in the whole value.
    have hquote : '"' ∉ (joinWith " " ss).toList := by
      intro hin
      rcases Text.mem_joinWith hin with hsep | ⟨s, hs, hin⟩
      · exact absurd hsep (by decide)
      · exact not_mem_of_mem_itemsFrom (by simp) (hmem s hs) hin
    intro s hs
    exact (isPlain_of_mem_itemsFrom (by simp) hquote (hmem s hs)).2
  · intro h
    apply items_joinWith
    rw [List.forall₂_same]
    intro s hs
    refine IsPlain.spells ⟨?_, h s hs⟩
    simpa using hne s hs

theorem items_predefinedValue_iff {ss : List String} :
    items (predefinedValue ss) = ss ↔ ∀ s ∈ ss, '"' ∉ s.toList := by
  constructor
  · intro h s hs
    rw [← h] at hs
    obtain ⟨w, hw, rfl⟩ := List.mem_map.mp hs
    rw [String.toList_ofList]
    exact not_mem_of_mem_itemsFrom (by simp) hw
  · intro h
    apply items_joinWith
    rw [List.forall₂_map_left_iff, List.forall₂_same]
    intro s hs
    simpa using spells_quoted (h s hs)

end Items

/-- A configuration with each key once that asks for what the settings ask for. -/
structure Agrees (s : ExtractionSettings) (d : Doxyfile) : Prop where
  keys : (d.map (·.1)).Perm Doxyfile.keys
  input : (d.lookup "INPUT").map items = some s.sources
  predefined : (d.lookup "PREDEFINED").map items = some s.predefined
  projectName : d.lookup "PROJECT_NAME" = some s.projectName

structure IsReadable (s : ExtractionSettings) (d : Doxyfile) : Prop where
  lines : ∀ a ∈ d, '\n' ∉ a.2.toList
  sources : ∀ source ∈ s.sources, ∀ c ∈ source.toList, isGap c = false ∧ c ≠ '"'
  predefined : ∀ symbol ∈ s.predefined, '"' ∉ symbol.toList

theorem ne_empty_of_validate {s : ExtractionSettings} (h : s.validate = .ok ()) :
    ∀ source ∈ s.sources, source ≠ "" := by
  rw [ExtractionSettings.validate] at h
  split at h
  · cases h
  · split at h
    · cases h
    · next hblank =>
      intro source hsource heq
      exact hblank (List.any_eq_true.mpr ⟨source, hsource, by rw [heq]; rfl⟩)

theorem agrees_iff {output : String} {s : ExtractionSettings} {d : Doxyfile} (h : IsFor output s d)
    (hne : ∀ source ∈ s.sources, source ≠ "") :
    Agrees s d ↔ (∀ source ∈ s.sources, ∀ c ∈ source.toList, isGap c = false ∧ c ≠ '"') ∧
      ∀ symbol ∈ s.predefined, '"' ∉ symbol.toList := by
  rw [← items_sources_iff hne, ← items_predefinedValue_iff]
  constructor
  · rintro ⟨-, hinput, hpredefined, -⟩
    rw [h.input] at hinput
    rw [h.predefined] at hpredefined
    exact ⟨Option.some.inj hinput, Option.some.inj hpredefined⟩
  · rintro ⟨hinput, hpredefined⟩
    refine ⟨by rw [h.keys], ?_, ?_, h.projectName⟩
    · rw [h.input, Option.map_some, hinput]
    · rw [h.predefined, Option.map_some, hpredefined]

theorem read_agrees_iff (cwd : List String) {s : ExtractionSettings} (hvalid : s.validate = .ok ())
    (houtput : s.xmlOutput ≠ "") :
    ∃ d, ofSettings cwd s = .ok d ∧
      ((∃ d', read d.text = d'.map some ∧ Agrees s d') ↔ IsReadable s d) := by
  obtain ⟨output, habsolute⟩ := exists_absolute cwd houtput
  obtain ⟨d, hd, hfor⟩ := exists_isFor habsolute
  have hne := ne_empty_of_validate hvalid
  refine ⟨d, hd, ?_, ?_⟩
  · rintro ⟨d', hread, hagrees⟩
    have hlength : (read d.text).length = d.length := by
      have hkeys := hagrees.keys.length_eq
      rw [← hfor.keys, List.length_map, List.length_map] at hkeys
      rw [hread, List.length_map, hkeys]
    have hlines := not_mem_of_length_read hfor hlength
    rw [eq_of_read hfor hlines hread] at hagrees
    obtain ⟨hsources, hpredefined⟩ := (agrees_iff hfor hne).mp hagrees
    exact ⟨hlines, hsources, hpredefined⟩
  · rintro ⟨hlines, hsources, hpredefined⟩
    exact ⟨d, read_text hfor hlines, (agrees_iff hfor hne).mpr ⟨hsources, hpredefined⟩⟩

def headerSettings (sources predefined : List String) (projectName : String) :
    ExtractionSettings :=
  { sourceDirectory := "src", sources, predefined, xmlOutput := "/out/xml", projectName }

theorem read_agrees_headers :
    let s := headerSettings ["a.h", "b.h"] ["A= x y", "DEBUG"] "My demo"
    s.validate = .ok () ∧ s.xmlOutput ≠ "" ∧
      ∃ d, ofSettings [] s = .ok d ∧ ∃ d', read d.text = d'.map some ∧ Agrees s d' := by
  intro s
  have hvalid : s.validate = .ok () := by rfl
  have houtput : s.xmlOutput ≠ "" := by decide
  obtain ⟨d, hd, hiff⟩ := read_agrees_iff [] hvalid houtput
  refine ⟨hvalid, houtput, d, hd, hiff.mpr ?_⟩
  obtain rfl := Except.ok.inj hd
  constructor
  · decide +kernel
  · simp [s, headerSettings, isGap]
  · decide +kernel

/-- A blank cuts a source in two. -/
theorem not_agrees_blankSource :
    let s := headerSettings ["a b.h"] [] "demo"
    s.validate = .ok () ∧ s.xmlOutput ≠ "" ∧
      ∃ d, ofSettings [] s = .ok d ∧
        (d.lookup "INPUT").map items = some ["a", "b.h"] ∧
        ¬∃ d', read d.text = d'.map some ∧ Agrees s d' := by
  intro s
  have habsolute : Path.absolute [] s.xmlOutput = .ok "/out/xml" := by decide +kernel
  obtain ⟨d, hd, hfor⟩ := exists_isFor habsolute
  have hlines : ∀ a ∈ d, '\n' ∉ a.2.toList := by
    obtain rfl := Except.ok.inj hd
    decide +kernel
  have hinput : (d.lookup "INPUT").map items = some ["a", "b.h"] := by
    rw [hfor.input]
    decide +kernel
  refine ⟨rfl, by decide, d, hd, hinput, ?_⟩
  rintro ⟨d', hread, hagrees⟩
  obtain rfl := eq_of_read hfor hlines hread
  have hsources := hinput.symm.trans hagrees.input
  exact absurd (Option.some.inj hsources) (by decide)

end SymbolDocs.Doxyfile
