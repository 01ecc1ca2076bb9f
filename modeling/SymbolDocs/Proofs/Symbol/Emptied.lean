import SymbolDocs.Proofs.Symbol.Hiding
/-!
Descriptions without contents. Pruning that hides nothing takes them away and changes nothing else.
Pruning that hides all that is said takes a description away if its entries are hidden themselves; a
paragraph among the entries stays as an empty one, and the description with it.
-/

namespace SymbolDocs

namespace Description

def present : Option Description → Option Description
  | some (paragraph []) => none
  | o => o

theorem filter_not_isEmptyParagraph (o : Option Description) :
    (o.filter fun d => !isEmptyParagraph d) = present o := by
  cases o with
  | none => rfl
  | some d =>
    cases d with
    | paragraph ds => cases ds <;> rfl
    | _ => rfl

theorem pruneEach_eq_self {v : Visibility} {ds : List Description}
    (h : ∀ d ∈ ds, prune v d = some d) : pruneEach v ds = ds := by
  rw [pruneEach_eq_filterMap, List.filterMap_congr h, List.filterMap_some]

theorem prune_eq_self {v : Visibility} (d : Description) (hd : d.Sound)
    (hv : Everywhere (¬Hidden v ·) d) : prune v d = some d := by
  induction d using Description.induction with
  | text s => rw [prune]
  | paragraph ds ih =>
    obtain ⟨-, hbelow⟩ := (everywhere_iff _ _).mp hv
    obtain ⟨hchain, hentries⟩ := (sound_paragraph ds).mp hd
    have hself := pruneEach_eq_self fun d hd => ih d hd (hentries d hd).1 (hbelow d hd)
    -- The entries are composed once more, but they have been composed before.
    rw [prune, hself, compose_eq_self hchain fun d hd => tidy_of_sound (hentries d hd).1]
  | admonition style title body ih =>
    obtain ⟨-, hbelow⟩ := (everywhere_iff _ _).mp hv
    have hbody := ih ((sound_admonition _ _ body).mp hd).sound (hbelow body List.mem_cons_self)
    rw [prune, hbody, Option.getD_some]
  | parameter name type direction body ih =>
    obtain ⟨-, hbelow⟩ := (everywhere_iff _ _).mp hv
    have hbody := ih ((sound_parameter _ _ _ body).mp hd).sound (hbelow body List.mem_cons_self)
    rw [prune, hbody, Option.getD_some]
  | list title ds ih =>
    obtain ⟨hself, hbelow⟩ := (everywhere_iff _ _).mp hv
    obtain ⟨hshape, hds⟩ := (sound_list title ds).mp hd
    have heach := pruneEach_eq_self fun d hd => ih d hd (hds d hd) (hbelow d hd)
    rw [prune, if_neg ((isHidden_iff v _).not.mpr hself), heach, compose_of_isShaped hshape hds]
  | returns title body ih =>
    obtain ⟨hself, hbelow⟩ := (everywhere_iff _ _).mp hv
    have hbody := ih ((sound_returns _ body).mp hd).sound (hbelow body List.mem_cons_self)
    rw [prune, if_neg ((isHidden_iff v _).not.mpr hself), hbody, Option.getD_some]

theorem visible_eq_present {v : Visibility} (hdescription : v.description = true)
    (hv : ∀ n, ¬Hidden v n) {o : Option Description} (h : ∀ d ∈ o.toList, d.WellFormed) :
    visible v o = present o := by
  have hprune : o.bind (prune v) = o := by
    cases o with
    | none => rfl
    | some d => exact prune_eq_self d (h d (by simp)).sound fun n _ => hv n
  rw [visible_of_description hdescription, hprune, filter_not_isEmptyParagraph]

mutual

def visibleNodes (v : Visibility) : Description → List Description
  | text s => [text s]
  | paragraph ds => paragraph ds :: visibleNodesAll v ds
  | admonition style title body => admonition style title body :: visibleNodes v body
  | parameter name type direction body =>
    parameter name type direction body :: visibleNodes v body
  | list title ds =>
    if Hidden v (list title ds) then [] else list title ds :: visibleNodesAll v ds
  | returns title body =>
    if Hidden v (returns title body) then [] else returns title body :: visibleNodes v body

def visibleNodesAll (v : Visibility) : List Description → List Description
  | [] => []
  | d :: ds => visibleNodes v d ++ visibleNodesAll v ds

end

theorem visibleNodesAll_eq_flatMap (v : Visibility) (ds : List Description) :
    visibleNodesAll v ds = ds.flatMap (visibleNodes v) := by
  induction ds with
  | nil => rfl
  | cons d ds ih => rw [visibleNodesAll, ih, List.flatMap_cons]

theorem visibleNodes_of_not_hidden {v : Visibility} {d : Description} (h : ¬Hidden v d) :
    d.visibleNodes v = d :: d.children.flatMap (visibleNodes v) := by
  cases d <;> simp [visibleNodes, children, visibleNodesAll_eq_flatMap, h]

theorem visibleNodes_eq_nodes {v : Visibility} (d : Description) (h : Everywhere (¬Hidden v ·) d) :
    d.visibleNodes v = d.nodes := by
  induction d using children_induction with
  | step d ih =>
    obtain ⟨hself, hbelow⟩ := (everywhere_iff _ _).mp h
    rw [visibleNodes_of_not_hidden hself, nodes_eq,
      List.flatMap_congr fun c hc => ih c hc (hbelow c hc)]

theorem not_hidden_of_isParagraph {v : Visibility} {d : Description} (h : d.isParagraph = true) :
    ¬Hidden v d := by
  cases d with
  | paragraph ds => exact not_hidden_paragraph v ds
  | _ => cases h

theorem hidden_iff_of_visibleNodes {v : Visibility} {d c : Description} (hd : ¬Hidden v d)
    (hleft : ∀ n ∈ d.visibleNodes v, n.isParagraph = true) (hc : c ∈ d.children) :
    Hidden v c ↔ c.isParagraph = false := by
  constructor
  · intro hhidden
    rw [← Bool.not_eq_true]
    intro hparagraph
    exact not_hidden_of_isParagraph hparagraph hhidden
  · intro hother
    by_contra hshown
    have hmem : c ∈ d.visibleNodes v := by
      rw [visibleNodes_of_not_hidden hd]
      apply List.mem_cons_of_mem
      apply List.mem_flatMap_of_mem hc
      rw [visibleNodes_of_not_hidden hshown]
      exact List.mem_cons_self
    rw [hleft c hmem] at hother
    cases hother

theorem push_ne_nil (ds : List Description) (next : Description) : push ds next ≠ [] := by
  rcases push_cases ds next with ⟨-, hp⟩ | ⟨init, last, fused, -, -, hp⟩ <;> simp [hp]

theorem compose_eq_nil_iff (ds : List Description) :
    compose ds = [] ↔ ∀ d ∈ ds, tidy d = none := by
  induction ds using List.reverseRecOn with
  | nil => simp [compose]
  | append_singleton ds d ih =>
    rw [compose_concat, List.forall_mem_append, List.forall_mem_singleton, ← ih, merge]
    cases htidy : tidy d with
    | none => simp
    | some e => simp [push_ne_nil]

theorem prune_eq_none_iff {v : Visibility} {d : Description} : prune v d = none ↔ Hidden v d := by
  constructor
  · intro h
    by_contra hd
    rcases prune_cases hd with ⟨s, -, hp⟩ | ⟨e, hp, -⟩ | ⟨e, body, hp, -⟩ <;> simp [hp] at h
  · exact prune_of_hidden

theorem visible_eq_none_iff {v : Visibility} {d : Description} (hv : v.description = true)
    (hd : d.WellFormed) : visible v (some d) = none ↔ ∀ c ∈ d.children, Hidden v c := by
  obtain ⟨hparagraph, hsound⟩ := hd
  cases d with
  | paragraph ds =>
    have htidy : ∀ e ∈ pruneEach v ds, tidy e = some e := by
      apply forall_mem_pruneEach
      intro c hc e he
      exact tidy_of_sound (sound_prune v c (((sound_paragraph ds).mp hsound).2 c hc).1 e he)
    have hnil : compose (pruneEach v ds) = [] ↔ pruneEach v ds = [] := by
      rw [compose_eq_nil_iff, List.eq_nil_iff_forall_not_mem]
      constructor
      · intro h e he
        simpa [htidy e he] using h e he
      · intro h e he
        exact absurd he (h e)
    have hpresent (es : List Description) : present (some (paragraph es)) = none ↔ es = [] := by
      cases es <;> simp [present]
    rw [visible_of_description hv, Option.bind_some, prune, filter_not_isEmptyParagraph, hpresent,
      hnil, pruneEach_eq_filterMap, List.filterMap_eq_nil_iff]
    exact forall₂_congr fun c _ => prune_eq_none_iff
  | _ => cases hparagraph

end Description

namespace Symbol

open Description (Hidden present visible)

mutual

def slots : Symbol → List (Option Description)
  | function f => [f.description]
  | define d => [d.description]
  | enum e => e.description :: e.values.map (·.description)
  | .variable x => [x.description]
  | compound head members => head.description :: slotsAll members

def slotsAll : List Symbol → List (Option Description)
  | [] => []
  | s :: ss => slots s ++ slotsAll ss

end

theorem slotsAll_eq_flatMap (ss : List Symbol) : slotsAll ss = ss.flatMap slots := by
  induction ss with
  | nil => rfl
  | cons s ss ih => rw [slotsAll, ih, List.flatMap_cons]

theorem descriptions_eq_flatMap_slots (s : Symbol) :
    s.descriptions = s.slots.flatMap Option.toList := by
  induction s using Symbol.induction with
  | compound head members ih =>
    rw [descriptions, slots, List.flatMap_cons, descriptionsAll_eq_flatMap, slotsAll_eq_flatMap,
      List.flatMap_assoc, List.flatMap_congr ih]
  | _ => simp [descriptions, slots, List.flatMap_map]

theorem slots_mapParts (f : Option Description → Option Description)
    (g : Option String → Option String) (s : Symbol) :
    (s.mapParts f g).slots = s.slots.map f := by
  induction s using Symbol.induction with
  | compound head members ih =>
    rw [mapParts, slots, slots, List.map_cons, slotsAll_eq_flatMap, slotsAll_eq_flatMap,
      mapPartsAll_eq_map, List.flatMap_map, List.map_flatMap, List.flatMap_congr ih]
  | _ => simp [mapParts, slots]

theorem mapParts_congr {f f' : Option Description → Option Description}
    (g : Option String → Option String) {s : Symbol} (h : ∀ o ∈ s.slots, f o = f' o) :
    s.mapParts f g = s.mapParts f' g := by
  induction s using Symbol.induction with
  | function x => simp [mapParts, h x.description (by simp [slots])]
  | define x => simp [mapParts, h x.description (by simp [slots])]
  | enum x =>
    rw [slots, List.forall_mem_cons, List.forall_mem_map] at h
    simp only [mapParts, h.1]
    congr 2
    apply List.map_congr_left
    intro value hvalue
    rw [h.2 value hvalue]
  | variable_ x => simp [mapParts, h x.description (by simp [slots])]
  | compound head members ih =>
    rw [slots, List.forall_mem_cons, slotsAll_eq_flatMap, List.forall_mem_flatMap] at h
    simp only [mapParts, h.1, mapPartsAll_eq_map]
    congr 1
    apply List.map_congr_left
    intro s hs
    exact ih s hs (h.2 s hs)

theorem WellDescribed.wellFormed_of_mem_slots {s : Symbol} (h : s.WellDescribed)
    {o : Option Description} (ho : o ∈ s.slots) : ∀ d ∈ o.toList, d.WellFormed := by
  intro d hd
  apply h
  rw [descriptions_eq_flatMap_slots]
  exact List.mem_flatMap_of_mem ho hd

theorem prune_eq_mapParts_present {v : Visibility} (hdescription : v.description = true)
    (hv : ∀ n, ¬Hidden v n) {s : Symbol} (h : s.WellDescribed) :
    s.prune v = s.mapParts present fun value => if v.initializer then value else none := by
  rw [prune_eq_mapParts]
  apply mapParts_congr
  intro o ho
  exact Description.visible_eq_present hdescription hv (h.wellFormed_of_mem_slots ho)

theorem prune_showing_everything {s : Symbol} (h : s.IsBuilt) :
    s.shown ⟨true, true, true, true, true⟩ = s ∧
      s.prune ⟨true, true, true, true, true⟩ = s.mapParts present id ∧
      s.shown ⟨true, false, true, true, true⟩ = s.mapParts present fun _ => none := by
  have hnot (initializer : Bool) (n : Description) :
      ¬Hidden ⟨true, initializer, true, true, true⟩ n := by simp [Hidden]
  exact ⟨rfl, prune_eq_mapParts_present rfl (hnot true) h.wellDescribed,
    prune_eq_mapParts_present rfl (hnot false) h.wellDescribed⟩

def blankEnum : Xml.Element :=
  .mk "memberdef" [("kind", "enum")] ""
    [.mk "name" [] "e" [] "",
     .mk "enumvalue" [] ""
       [.mk "name" [] "a" [] "",
        .mk "briefdescription" [] "" [.mk "para" [] " first" [] ""] "",
        .mk "detaileddescription" [] ""
          [.mk "para" [] "before"
            [.mk "simplesect" [("kind", "pre")] "" [.mk "para" [] "one" [] ""] "",
             .mk "simplesect" [("kind", "pre")] "" [.mk "para" [] "two" [] ""] "after ",
             .mk "itemizedlist" [] "" [.mk "listitem" [] "" [] ""] ""] ""] ""] "",
     .mk "briefdescription" [] "" [.mk "para" [] "\n" [] ""] "",
     .mk "location" [("file", "f.h"), ("line", "1"), ("column", "1")] "" [] ""] ""

theorem prune_showing_everything_blankEnum : ∃ s : Symbol, s.IsBuilt ∧
    s.prune ⟨true, true, true, true, true⟩ = s.mapParts present id ∧
    s.slots.map (·.map (·.plainText)) = [some "", some "first before one two after"] ∧
    (s.prune ⟨true, true, true, true, true⟩).slots.map (·.map (·.plainText)) =
      [none, some "first before one two after"] := by
  have h : (ofMember (Index.resolve ⟨"xml", default⟩) blankEnum).map (fun s =>
      (s.slots.map (·.map (·.plainText)),
        (s.prune ⟨true, true, true, true, true⟩).slots.map (·.map (·.plainText)))) =
      .ok ([some "", some "first before one two after"],
        [none, some "first before one two after"]) := by decide +kernel
  obtain ⟨s, hs, hslots⟩ := map_eq_ok.mp h
  obtain ⟨hbefore, hafter⟩ := Prod.mk.inj hslots
  exact ⟨s, .member hs, (prune_showing_everything (.member hs)).2.1, hbefore, hafter⟩

theorem slots_shown (v : Visibility) (s : Symbol) :
    (s.shown v).slots = s.slots.map fun o => if v.showsEverything then o else visible v o := by
  unfold shown
  split
  · exact (List.map_id _).symm
  · rw [prune_eq_mapParts, slots_mapParts]

theorem mem_zip_slots_shown {v : Visibility} {s : Symbol} {o o' : Option Description}
    (h : (o, o') ∈ s.slots.zip (s.shown v).slots) :
    o ∈ s.slots ∧ o' = if v.showsEverything then o else visible v o := by
  have hzip : s.slots.zip (s.shown v).slots =
      s.slots.map fun o => (o, if v.showsEverything then o else visible v o) := by
    rw [slots_shown]
    simpa using List.zip_map' (l := s.slots) (f := id)
  rw [hzip] at h
  obtain ⟨o₁, ho, heq⟩ := List.mem_map.mp h
  obtain ⟨rfl, rfl⟩ := Prod.mk.inj heq
  exact ⟨ho, rfl⟩

theorem slot_eq_none_iff {s : Symbol} (h : s.IsBuilt) (v : Visibility) {d : Description}
    {after : Option Description} (hslot : (some d, after) ∈ s.slots.zip (s.shown v).slots)
    (hsaid : ∃ n ∈ d.nodes, n.isParagraph = false)
    (hleft : v.description = true → ∀ n ∈ d.visibleNodes v, n.isParagraph = true) :
    after = none ↔ v.description = false ∨ ∀ c ∈ d.children, c.isParagraph = false := by
  obtain ⟨hd, rfl⟩ := mem_zip_slots_shown hslot
  have hwell : d.WellFormed := h.wellDescribed.wellFormed_of_mem_slots hd d (by simp)
  cases hv : v.description with
  | false => simp [Visibility.showsEverything, visible, hv]
  | true =>
    have hleft := hleft hv
    by_cases hall : v.showsEverything = true
    · -- Nothing is hidden, so what was said is still there.
      rw [Visibility.showsEverything_iff] at hall
      have hnone : d.visibleNodes v = d.nodes :=
        Description.visibleNodes_eq_nodes d fun n _ => by simp [Hidden, hall]
      obtain ⟨n, hn, hnot⟩ := hsaid
      rw [← hnone] at hn
      simp [hleft n hn] at hnot
    · have hnot : ¬Hidden v d := Description.not_hidden_of_isParagraph hwell.isParagraph
      rw [if_neg hall, Description.visible_eq_none_iff hv hwell]
      simp only [Bool.true_eq_false, false_or]
      exact forall₂_congr fun c hc => Description.hidden_iff_of_visibleNodes hnot hleft hc

def describedMacro (d : Description) : Symbol :=
  .define ⟨"M", none, none, some d, ⟨"f.h", 1, 1⟩⟩

def macroElement (paragraphs : List Xml.Element) : Xml.Element :=
  .mk "memberdef" [("kind", "define")] ""
    [.mk "name" [] "M" [] "",
     .mk "detaileddescription" [] "" paragraphs "",
     .mk "location" [("file", "f.h"), ("line", "1"), ("column", "1")] "" [] ""] ""

def sectionParagraph (text : String) : Xml.Element :=
  .mk "para" [] ""
    [.mk "simplesect" [("kind", "return")] "" [.mk "para" [] text [] ""] ""] ""

def returnsParagraph (text : String) : Description :=
  .paragraph [.returns "Returns" (.paragraph [.text text])]

theorem slot_eq_none_iff_oneParagraph :
    (describedMacro (returnsParagraph "one")).IsBuilt ∧
      (∃ n ∈ (returnsParagraph "one").nodes, n.isParagraph = false) ∧
      (∀ n ∈ (returnsParagraph "one").visibleNodes { returns := false }, n.isParagraph = true) ∧
      ((describedMacro (returnsParagraph "one")).shown { returns := false }).description = none := by
  have hread : ofMember (Index.resolve ⟨"xml", default⟩) (macroElement [sectionParagraph "one"]) =
      .ok (describedMacro (returnsParagraph "one")) := rfl
  have hsaid : ∃ n ∈ (returnsParagraph "one").nodes, n.isParagraph = false := by decide
  have hleft : ∀ n ∈ (returnsParagraph "one").visibleNodes { returns := false },
      n.isParagraph = true := by decide
  refine ⟨.member hread, hsaid, hleft, ?_⟩
  exact (slot_eq_none_iff (.member hread) { returns := false } List.mem_cons_self hsaid
    fun _ => hleft).mpr (.inr (by decide))

/-- Two paragraphs, of each of which nothing is left, are still there as empty ones. -/
theorem description_shown_twoParagraphs :
    ∃ d : Description, (describedMacro d).IsBuilt ∧ (∃ n ∈ d.nodes, n.isParagraph = false) ∧
      (∀ n ∈ d.visibleNodes { returns := false }, n.isParagraph = true) ∧
      ((describedMacro d).shown { returns := false }).description ≠ none := by
  have hread : ofMember (Index.resolve ⟨"xml", default⟩)
      (macroElement [sectionParagraph "one", sectionParagraph "two"]) =
        .ok (describedMacro (.paragraph [returnsParagraph "one", returnsParagraph "two"])) :=
    rfl
  refine ⟨.paragraph [returnsParagraph "one", returnsParagraph "two"], .member hread, ?_⟩
  refine ⟨by decide, by decide, ?_⟩
  have hshown : ((describedMacro (.paragraph [returnsParagraph "one", returnsParagraph "two"])).shown
      { returns := false }).description = some (.paragraph [.paragraph [], .paragraph []]) :=
    rfl
  rw [hshown]
  exact Option.some_ne_none _

end Symbol

end SymbolDocs
