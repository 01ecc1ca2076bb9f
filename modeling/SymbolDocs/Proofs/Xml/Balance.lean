import Mathlib.Data.List.Infix
import SymbolDocs.Proofs.Outcome
import SymbolDocs.Proofs.Xml.Walk
/-!
Which sequences of events are documents. A tree is built from exactly those that hold one element
from its start to its end, and the walk through the tree gives the events back.
-/

namespace SymbolDocs.Xml

namespace Event

def isStart : Event → Bool
  | start _ _ => true
  | _ => false

def isFinish : Event → Bool
  | finish => true
  | _ => false

end Event

def starts (es : List Event) : Nat :=
  es.countP Event.isStart

def finishes (es : List Event) : Nat :=
  es.countP Event.isFinish

structure IsOneElement (es : List Event) : Prop where
  noStrayEnd : ∀ before, before <+: es → finishes before ≤ starts before
  nothingOpen : starts es = finishes es
  oneRoot : ∃! before, starts before = finishes before ∧
    ∃ name attributes, before ++ [.start name attributes] <+: es

def inside : (depth : Nat) → List Event → List Event
  | _, [] => []
  | depth, .start name attributes :: es => .start name attributes :: inside (depth + 1) es
  | depth, .finish :: es => .finish :: inside (depth - 1) es
  | 0, .text _ :: es => inside 0 es
  | depth, e :: es => e :: inside depth es

/-- Events as starts, ends and whole runs of text, with nothing outside the elements. -/
def normalize (es : List Event) : List Event :=
  coalesce (inside 0 (es.flatMap Event.plain))

theorem starts_append (xs ys : List Event) : starts (xs ++ ys) = starts xs + starts ys :=
  List.countP_append

theorem finishes_append (xs ys : List Event) : finishes (xs ++ ys) = finishes xs + finishes ys :=
  List.countP_append

@[simp] theorem starts_start (name : String) (attributes : List Attribute) (es : List Event) :
    starts (.start name attributes :: es) = starts es + 1 :=
  List.countP_cons_of_pos rfl

@[simp] theorem finishes_start (name : String) (attributes : List Attribute) (es : List Event) :
    finishes (.start name attributes :: es) = finishes es :=
  List.countP_cons_of_neg nofun

@[simp] theorem starts_concat_finish (es : List Event) : starts (es ++ [.finish]) = starts es := by
  simp [starts, Event.isStart]

@[simp] theorem finishes_concat_finish (es : List Event) :
    finishes (es ++ [.finish]) = finishes es + 1 := by
  simp [finishes, Event.isFinish]

@[simp] theorem starts_textRun (s : String) : starts (textRun s) = 0 := by
  unfold textRun
  split <;> rfl

@[simp] theorem finishes_textRun (s : String) : finishes (textRun s) = 0 := by
  unfold textRun
  split <;> rfl

structure Nested (es : List Event) : Prop where
  noStrayEnd : ∀ before, before <+: es → finishes before ≤ starts before
  nothingOpen : starts es = finishes es

theorem Nested.append {xs ys : List Event} (hx : Nested xs) (hy : Nested ys) :
    Nested (xs ++ ys) := by
  constructor
  · intro before hbefore
    rcases List.prefix_or_prefix_of_prefix hbefore (List.prefix_append xs ys) with h | ⟨rest, rfl⟩
    · exact hx.noStrayEnd before h
    · have hrest := hy.noStrayEnd rest ((List.prefix_append_right_inj xs).mp hbefore)
      have hwhole := hx.nothingOpen
      rw [starts_append, finishes_append]
      omega
  · rw [starts_append, finishes_append, hx.nothingOpen, hy.nothingOpen]

theorem nested_textRun (s : String) : Nested (textRun s) := by
  constructor
  · intro before hbefore
    have hle : finishes before ≤ finishes (textRun s) := hbefore.sublist.countP_le
    rw [finishes_textRun] at hle
    omega
  · rw [starts_textRun, finishes_textRun]

theorem prefix_cases {es before : List Event} (h : Nested es) {name : String}
    {attributes : List Attribute} (hb : before <+: .start name attributes :: (es ++ [.finish])) :
    before = [] ∨ finishes before < starts before ∨
      before = .start name attributes :: (es ++ [.finish]) := by
  cases before with
  | nil => exact .inl rfl
  | cons e before =>
    obtain ⟨rfl, hrest⟩ := List.cons_prefix_cons.mp hb
    rcases List.prefix_concat_iff.mp hrest with rfl | hrest
    · exact .inr (.inr rfl)
    · have hle := h.noStrayEnd before hrest
      refine .inr (.inl ?_)
      rw [starts_start, finishes_start]
      omega

theorem starts_tags {es : List Event} (h : Nested es) (name : String)
    (attributes : List Attribute) : starts (.start name attributes :: (es ++ [.finish])) =
      finishes (.start name attributes :: (es ++ [.finish])) := by
  rw [starts_start, finishes_start, starts_concat_finish, finishes_concat_finish, h.nothingOpen]

theorem nested_tags {es : List Event} (h : Nested es) (name : String)
    (attributes : List Attribute) : Nested (.start name attributes :: (es ++ [.finish])) := by
  refine ⟨?_, starts_tags h name attributes⟩
  intro before hbefore
  rcases prefix_cases h hbefore with rfl | hlt | rfl
  · exact Nat.le_refl 0
  · exact hlt.le
  · exact (starts_tags h name attributes).ge

mutual

theorem nested_walk : ∀ e : Element, Nested e.walk
  | .mk name attributes text children _ =>
    nested_tags ((nested_textRun text).append (nested_walkAll children)) name attributes

theorem nested_walkAll : ∀ es : List Element, Nested (Element.walkAll es)
  | [] => ⟨fun _ h => by rw [List.prefix_nil.mp h]; rfl, rfl⟩
  | e :: es => ((nested_walk e).append (nested_textRun e.tail)).append (nested_walkAll es)

end

theorem isOneElement_walk (e : Element) : IsOneElement e.walk := by
  refine ⟨(nested_walk e).noStrayEnd, (nested_walk e).nothingOpen, [], ?_, ?_⟩
  · obtain ⟨name, attributes, text, children, tail⟩ := e
    exact ⟨rfl, name, attributes, List.prefix_append [_] _⟩
  · obtain ⟨name, attributes, text, children, tail⟩ := e
    rintro before ⟨heq, name', attributes', hprefix⟩
    have hcontent := (nested_textRun text).append (nested_walkAll children)
    rcases prefix_cases hcontent ((List.prefix_append _ _).trans hprefix) with rfl | hlt | rfl
    · rfl
    · omega
    · -- Nothing follows the whole element.
      have hle := hprefix.length_le
      simp [Element.walk] at hle

namespace Builder

theorem length_attach {b b' : Builder} {e : Element} (h : b.attach e = .ok b') :
    b'.opened.length = b.opened.length := by
  obtain ⟨opened, root⟩ := b
  unfold attach at h
  split at h
  · next f fs hopened =>
    obtain rfl : opened = f :: fs := hopened
    obtain rfl := Except.ok.inj h
    rfl
  · cases h
  · obtain rfl := Except.ok.inj h
    rfl

theorem walk_add {b b' : Builder} {e : Event} (he : e.plain = [e]) (h : b.add e = .ok b')
    (rest : List Event) :
    coalesce (b.walk ++ inside b.opened.length (e :: rest)) =
      coalesce (b'.walk ++ inside b'.opened.length rest) := by
  -- What has been built and what is still to come, taken together, never changes.
  cases e with
  | start name attributes =>
    obtain rfl := Except.ok.inj h
    rw [walk_cons, List.append_assoc]
    rfl
  | finish =>
    obtain ⟨opened, root⟩ := b
    cases opened with
    | nil => cases h
    | cons f fs =>
      have hlength : b'.opened.length = fs.length := length_attach h
      rw [walk_attach h rfl, hlength, Frame.walk_close, walk_cons, ← List.append_assoc,
        List.append_assoc _ [Event.finish]]
      rfl
  | text data =>
    obtain rfl := Except.ok.inj h
    obtain ⟨opened, root⟩ := b
    cases opened with
    | nil => rfl
    | cons f fs => rw [walk_addText (List.cons_ne_nil f fs), coalesce_coalesce_append,
        List.append_assoc]; rfl
  | empty name attributes => cases he
  | cdata data => cases he
  | other => cases he

theorem walk_foldlM {es : List Event} (hes : ∀ e ∈ es, e.plain = [e]) {b b' : Builder}
    (h : es.foldlM add b = .ok b') (rest : List Event) :
    coalesce (b.walk ++ inside b.opened.length (es ++ rest)) =
      coalesce (b'.walk ++ inside b'.opened.length rest) := by
  induction es generalizing b with
  | nil =>
    obtain rfl := Except.ok.inj h
    rfl
  | cons e es ih =>
    rw [List.forall_mem_cons] at hes
    rw [List.foldlM_cons] at h
    obtain ⟨b₁, he, h⟩ := bind_eq_ok.mp h
    rw [List.cons_append, walk_add hes.1 he, ih hes.2 h]

theorem starts_walk (b : Builder) : starts b.walk = finishes b.walk + b.opened.length := by
  obtain ⟨opened, root⟩ := b
  induction opened with
  | nil =>
    cases root with
    | none => rfl
    | some e => simpa [walk] using (nested_walk e).nothingOpen
  | cons f fs ih =>
    have hcontent := (nested_textRun f.text).append (nested_walkAll f.children.reverse)
    have hopen := hcontent.nothingOpen
    rw [walk_cons, starts_append, finishes_append, Frame.walk, starts_start, finishes_start,
      List.length_cons]
    simp only at ih
    omega

theorem add_eq_error {b : Builder} {e : Event} {fault : Fault} (he : e.plain = [e])
    (h : b.add e = .error fault) :
    e = .finish ∧ ((b.opened = [] ∧ fault = .strayEnd) ∨
      ∃ f r, b.opened = [f] ∧ b.root = some r ∧ fault = .secondRoot f.name) := by
  cases e with
  | start name attributes => cases h
  | finish =>
    refine ⟨rfl, ?_⟩
    obtain ⟨opened, root⟩ := b
    match opened, root with
    | [], _ => exact .inl ⟨rfl, (Except.error.inj h).symm⟩
    | [_], none => cases h
    | [f], some r => exact .inr ⟨f, r, rfl, rfl, (Except.error.inj h).symm⟩
    | _ :: _ :: _, _ => cases h
  | text data => cases h
  | empty name attributes => cases he
  | cdata data => cases he
  | other => cases he

theorem tail_attach {b b' : Builder} {e : Element} (hb : ∀ r ∈ b.root, r.tail = "")
    (he : e.tail = "") (h : b.attach e = .ok b') : ∀ r ∈ b'.root, r.tail = "" := by
  obtain ⟨opened, root⟩ := b
  unfold attach at h
  split at h
  · obtain rfl := Except.ok.inj h
    exact hb
  · cases h
  · obtain rfl := Except.ok.inj h
    rintro r ⟨⟩
    exact he

theorem tail_add {b b' : Builder} {e : Event} (hb : ∀ r ∈ b.root, r.tail = "")
    (h : b.add e = .ok b') : ∀ r ∈ b'.root, r.tail = "" := by
  cases e with
  | finish =>
    obtain ⟨opened, root⟩ := b
    cases opened with
    | nil => cases h
    | cons f fs => exact tail_attach (b := ⟨fs, root⟩) (e := f.close) hb rfl h
  | empty name attributes => exact tail_attach hb rfl h
  | text data | cdata data =>
    obtain rfl := Except.ok.inj h
    obtain ⟨opened, root⟩ := b
    cases opened <;> exact hb
  | _ =>
    obtain rfl := Except.ok.inj h
    exact hb

theorem tail_foldlM {es : List Event} {b b' : Builder} (hb : ∀ r ∈ b.root, r.tail = "")
    (h : es.foldlM add b = .ok b') : ∀ r ∈ b'.root, r.tail = "" := by
  induction es generalizing b with
  | nil => exact Except.ok.inj h ▸ hb
  | cons e es ih =>
    rw [List.foldlM_cons] at h
    obtain ⟨b₁, he, h⟩ := bind_eq_ok.mp h
    exact ih (tail_add hb he) h

end Builder

theorem plain_of_mem {es : List Event} {e : Event} (h : e ∈ es.flatMap Event.plain) :
    e.plain = [e] := by
  obtain ⟨e', -, he⟩ := List.mem_flatMap.mp h
  cases e' with
  | empty name attributes =>
    rcases List.mem_pair.mp he with rfl | rfl <;> rfl
  | other => cases he
  | _ =>
    obtain rfl := List.mem_singleton.mp he
    rfl

theorem not_isOneElement_of_error {b : Builder} {rest : List Event} {fault : Fault}
    (h : b.add .finish = .error fault) : ¬IsOneElement (b.walk ++ .finish :: rest) := by
  intro hone
  obtain ⟨-, ⟨hopened, -⟩ | ⟨f, r, hopened, hroot, -⟩⟩ := Builder.add_eq_error rfl h
  · have hle := hone.noStrayEnd (b.walk ++ [.finish]) ⟨rest, by rw [List.append_assoc]; rfl⟩
    have hcount := b.starts_walk
    rw [starts_concat_finish, finishes_concat_finish, hcount, hopened, List.length_nil] at hle
    omega
  · -- Both the root and the element behind it start with nothing open.
    obtain ⟨before, -, hunique⟩ := hone.oneRoot
    have hwalk : b.walk = r.walk ++ f.walk := by simp [Builder.walk, hopened, hroot]
    have hfirst : [] = before := by
      refine hunique [] ⟨rfl, ?_⟩
      obtain ⟨name, attributes, text, children, tail⟩ := r
      refine ⟨name, attributes, ?_⟩
      rw [hwalk]
      exact List.prefix_append [_] _
    have hsecond : r.walk = before := by
      refine hunique r.walk ⟨(nested_walk r).nothingOpen, f.name, f.attributes, ?_⟩
      rw [hwalk, List.append_assoc, List.prefix_append_right_inj]
      exact List.prefix_append [_] _
    obtain ⟨name, attributes, text, children, tail⟩ := r
    cases hfirst.trans hsecond.symm

theorem ofEvents_cases (es : List Event) :
    (∃ root, Element.ofEvents es = .ok root ∧ root.walk = normalize es ∧ root.tail = "") ∨
      ∃ fault, Element.ofEvents es = .error fault ∧ ¬IsOneElement (normalize es) := by
  have hplain : ∀ e ∈ es.flatMap Event.plain, e.plain = [e] := fun e he => plain_of_mem he
  rw [Element.ofEvents, ← Builder.foldlM_flatMap_plain, normalize]
  generalize es.flatMap Event.plain = ps at hplain
  cases hfold : ps.foldlM Builder.add Builder.empty with
  | error fault =>
    obtain ⟨before, e, after, b, rfl, hbefore, hadd⟩ := exists_error_of_foldlM hfold
    rw [List.forall_mem_append, List.forall_mem_cons] at hplain
    obtain ⟨rfl, -⟩ := Builder.add_eq_error hplain.2.1 hadd
    refine .inr ⟨fault, rfl, ?_⟩
    have hwalk := Builder.walk_foldlM hplain.1 hbefore (.finish :: after)
    rw [show coalesce (inside 0 (before ++ .finish :: after)) = _ from hwalk, inside,
      coalesce_append]
    have hlead : LeadsOff (coalesce (.finish :: inside (b.opened.length - 1) after)) := trivial
    rw [b.settled_walk _ hlead]
    exact not_isOneElement_of_error hadd
  | ok b =>
    have hwalk := Builder.walk_foldlM hplain hfold []
    rw [List.append_nil] at hwalk
    rw [show coalesce (inside 0 ps) = _ from hwalk, inside, coalesce_append,
      b.settled_walk (coalesce []) trivial]
    change (∃ root, b.result = .ok root ∧ root.walk = b.walk ++ [] ∧ _) ∨
      ∃ fault, b.result = .error fault ∧ ¬IsOneElement (b.walk ++ [])
    rw [List.append_nil]
    have hcount := b.starts_walk
    have hempty : ∀ r ∈ Builder.empty.root, r.tail = "" := by
      rintro r ⟨⟩
    have htail := Builder.tail_foldlM hempty hfold
    obtain ⟨opened, root⟩ := b
    cases opened with
    | cons f fs =>
      refine .inr ⟨_, rfl, fun hone => ?_⟩
      rw [hone.nothingOpen, List.length_cons] at hcount
      omega
    | nil =>
      cases root with
      | none =>
        refine .inr ⟨_, rfl, fun hone => ?_⟩
        obtain ⟨before, ⟨-, name, attributes, hprefix⟩, -⟩ := hone.oneRoot
        simp [Builder.walk] at hprefix
      | some root => exact .inl ⟨root, rfl, by simp [Builder.walk], htail root rfl⟩

theorem walk_injective {d e : Element} (hd : d.tail = "") (he : e.tail = "")
    (h : d.walk = e.walk) : d = e := by
  have hbuilt := ofEvents_walk hd
  rw [h, ofEvents_walk he] at hbuilt
  exact (Except.ok.inj hbuilt).symm

theorem foldlM_events {ts : List (Except Fault Token)} {es : List Event}
    (h : ts.map (· >>= Event.ofToken) = es.map .ok) (b : Builder) :
    ts.foldlM (fun b token => do b.add (← Event.ofToken (← token))) b =
      es.foldlM Builder.add b := by
  induction ts generalizing es b with
  | nil =>
    rw [List.map_nil, eq_comm, List.map_eq_nil_iff] at h
    rw [h]
    rfl
  | cons t ts ih =>
    cases es with
    | nil => cases h
    | cons e es =>
      obtain ⟨he, hes⟩ := List.cons.inj h
      obtain ⟨token, rfl, htoken⟩ := bind_eq_ok.mp he
      rw [List.foldlM_cons, List.foldlM_cons]
      change (Event.ofToken token >>= b.add) >>= _ = _
      rw [htoken]
      exact bind_congr fun b' => ih hes b'

theorem parseDocument_eq_ofEvents {content : String} {es : List Event}
    (h : (tokenize content.toList).map (· >>= Event.ofToken) = es.map .ok) :
    parseDocument content = Element.ofEvents es := by
  rw [parseDocument, foldlM_events h]
  rfl

theorem ofEvents_eq_ok_iff (es : List Event) :
    (∀ root, Element.ofEvents es = .ok root ↔
      IsOneElement (normalize es) ∧ root.walk = normalize es ∧ root.tail = "") ∧
    ((∃ root, Element.ofEvents es = .ok root) ↔ IsOneElement (normalize es)) ∧
    (¬IsOneElement (normalize es) → ∃ fault, Element.ofEvents es = .error fault) ∧
    ∀ content, (tokenize content.toList).map (· >>= Event.ofToken) = es.map .ok →
      parseDocument content = Element.ofEvents es := by
  refine ⟨?_, ?_, ?_, fun _ => parseDocument_eq_ofEvents⟩
  · intro root
    rcases ofEvents_cases es with ⟨root', hroot', hwalk', htail'⟩ | ⟨fault, hfault, hnot⟩
    · rw [hroot', Except.ok.injEq]
      constructor
      · rintro rfl
        exact ⟨hwalk' ▸ isOneElement_walk root', hwalk', htail'⟩
      · rintro ⟨-, hwalk, htail⟩
        exact walk_injective htail' htail (hwalk'.trans hwalk.symm)
    · rw [hfault]
      exact ⟨nofun, fun h => absurd h.1 hnot⟩
  · rcases ofEvents_cases es with ⟨root, hroot, hwalk, -⟩ | ⟨fault, hfault, hnot⟩
    · exact ⟨fun _ => hwalk ▸ isOneElement_walk root, fun _ => ⟨root, hroot⟩⟩
    · rw [hfault]
      exact ⟨nofun, fun h => absurd h hnot⟩
  · intro hnot
    rcases ofEvents_cases es with ⟨root, -, hwalk, -⟩ | ⟨fault, hfault, -⟩
    · exact absurd (hwalk ▸ isOneElement_walk root) hnot
    · exact ⟨fault, hfault⟩

def scatteredText : String :=
  "\n<a k='v'>x<!-- --><![CDATA[y]]><b/><c>z</c> <?p q?>w</a>\n"

def scatteredEvents : List Event :=
  [.text "\n", .start "a" [("k", "v")], .text "x", .other, .cdata "y", .empty "b" [],
    .start "c" [], .text "z", .finish, .text " ", .other, .text "w", .finish, .text "\n"]

theorem ofEvents_eq_ok_iff_scatteredText :
    (tokenize scatteredText.toList).map (· >>= Event.ofToken) = scatteredEvents.map .ok ∧
      IsOneElement (normalize scatteredEvents) ∧
      parseDocument scatteredText =
        .ok (.mk "a" [("k", "v")] "xy" [.mk "b" [] "" [] "", .mk "c" [] "z" [] " w"] "") := by
  have hevents : (tokenize scatteredText.toList).map (· >>= Event.ofToken) =
      scatteredEvents.map .ok := by decide +kernel
  have hwalk : Element.walk (.mk "a" [("k", "v")] "xy"
      [.mk "b" [] "" [] "", .mk "c" [] "z" [] " w"] "") = normalize scatteredEvents := by
    decide +kernel
  have hone := isOneElement_walk (.mk "a" [("k", "v")] "xy"
    [.mk "b" [] "" [] "", .mk "c" [] "z" [] " w"] "")
  rw [hwalk] at hone
  obtain ⟨hok, -, -, hparse⟩ := ofEvents_eq_ok_iff scatteredEvents
  exact ⟨hevents, hone, (hparse scatteredText hevents).trans ((hok _).mpr ⟨hone, hwalk, rfl⟩)⟩

end SymbolDocs.Xml
