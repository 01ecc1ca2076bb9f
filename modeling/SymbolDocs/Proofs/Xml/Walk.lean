import Mathlib.Data.List.Basic
import SymbolDocs.Xml.Document

namespace SymbolDocs.Xml

def textRun (s : String) : List Event :=
  if s = "" then [] else [.text s]

namespace Event

def plain : Event → List Event
  | empty name attributes => [start name attributes, finish]
  | cdata data => [text data]
  | other => []
  | e => [e]

def joinTo : Event → List Event → List Event
  | text s, text t :: es => text (s ++ t) :: es
  | text s, es => textRun s ++ es
  | e, es => e :: es

end Event

def coalesce (es : List Event) : List Event :=
  es.foldr Event.joinTo []

namespace Element

mutual

def walk : Element → List Event
  | mk name attributes text children _ =>
    .start name attributes :: (textRun text ++ walkAll children ++ [.finish])

def walkAll : List Element → List Event
  | [] => []
  | e :: es => walk e ++ textRun e.tail ++ walkAll es

end

def bare : Element → Element
  | mk name attributes text children _ => mk name attributes text children ""

theorem bare_of_tail {e : Element} (h : e.tail = "") : e.bare = e := by
  obtain ⟨name, attributes, text, children, tail⟩ := e
  obtain rfl : tail = "" := h
  rfl

theorem addTail_bare (e : Element) : e.bare.addTail e.tail = e := by
  obtain ⟨name, attributes, text, children, tail⟩ := e
  rw [bare, addTail, String.empty_append]
  rfl

theorem addTail_addTail (e : Element) (s t : String) :
    (e.addTail s).addTail t = e.addTail (s ++ t) := by
  obtain ⟨name, attributes, text, children, tail⟩ := e
  simp [addTail, String.append_assoc]

theorem walk_addTail (e : Element) (s : String) : (e.addTail s).walk = e.walk := by
  obtain ⟨name, attributes, text, children, tail⟩ := e
  simp [addTail, walk]

theorem tail_addTail (e : Element) (s : String) : (e.addTail s).tail = e.tail ++ s := by
  obtain ⟨name, attributes, text, children, tail⟩ := e
  rfl

theorem walkAll_append (xs ys : List Element) : walkAll (xs ++ ys) = walkAll xs ++ walkAll ys := by
  induction xs with
  | nil => rfl
  | cons e es ih => simp only [List.cons_append, walkAll, ih, List.append_assoc]

end Element

namespace Builder

theorem addText_empty (b : Builder) : b.addText "" = b := by
  obtain ⟨opened, root⟩ := b
  cases opened with
  | nil => rfl
  | cons f fs =>
    obtain ⟨name, attributes, text, children⟩ := f
    cases children with
    | nil => simp [addText, Frame.addText]
    | cons last before =>
      obtain ⟨name', attributes', text', children', tail⟩ := last
      simp [addText, Frame.addText, Element.addTail]

theorem addText_addText (b : Builder) (s t : String) :
    (b.addText s).addText t = b.addText (s ++ t) := by
  obtain ⟨opened, root⟩ := b
  cases opened with
  | nil => rfl
  | cons f fs =>
    obtain ⟨name, attributes, text, children⟩ := f
    cases children with
    | nil => simp [addText, Frame.addText, String.append_assoc]
    | cons last before => simp [addText, Frame.addText, Element.addTail_addTail]

theorem foldlM_textRun (b : Builder) (s : String) :
    (textRun s).foldlM add b = .ok (b.addText s) := by
  unfold textRun
  split
  · next h => rw [h, addText_empty]; rfl
  · rfl

theorem foldlM_plain (b : Builder) (e : Event) : e.plain.foldlM add b = b.add e := by
  cases e with
  | start name attributes => rfl
  | finish => exact bind_pure (b.add .finish)
  | text data => rfl
  | empty name attributes => exact bind_pure (b.attach (.mk name attributes "" [] ""))
  | cdata data => rfl
  | other => rfl

theorem foldlM_flatMap_plain (es : List Event) (b : Builder) :
    (es.flatMap Event.plain).foldlM add b = es.foldlM add b := by
  induction es generalizing b with
  | nil => rfl
  | cons e es ih =>
    rw [List.flatMap_cons, List.foldlM_append, foldlM_plain, List.foldlM_cons]
    exact bind_congr fun b' => ih b'

mutual

theorem foldlM_walk : ∀ (e : Element) (b : Builder), e.walk.foldlM add b = b.attach e.bare
  | .mk name attributes text children _, b => by
    rw [Element.walk, List.foldlM_cons]
    change (textRun text ++ Element.walkAll children ++ [Event.finish]).foldlM add
      ⟨⟨name, attributes, "", []⟩ :: b.opened, b.root⟩ = _
    rw [List.foldlM_append, List.foldlM_append, foldlM_textRun]
    change ((Element.walkAll children).foldlM add
      ⟨⟨name, attributes, "" ++ text, []⟩ :: b.opened, b.root⟩ >>= _) = _
    rw [foldlM_walkAll, String.empty_append]
    change (b.attach (Frame.close _) >>= pure) = _
    rw [bind_pure, Frame.close, List.append_nil, List.reverse_reverse, Element.bare]

theorem foldlM_walkAll : ∀ (es : List Element) (f : Frame) (fs : List Frame)
    (root : Option Element), (Element.walkAll es).foldlM add ⟨f :: fs, root⟩ =
      .ok ⟨{ f with children := es.reverse ++ f.children } :: fs, root⟩
  | [], f, fs, root => rfl
  | e :: es, f, fs, root => by
    rw [Element.walkAll, List.foldlM_append, List.foldlM_append, foldlM_walk]
    change ((textRun e.tail).foldlM add
      ⟨{ f with children := e.bare :: f.children } :: fs, root⟩ >>= _) = _
    rw [foldlM_textRun]
    change (Element.walkAll es).foldlM add
      ⟨{ f with children := e.bare.addTail e.tail :: f.children } :: fs, root⟩ = _
    rw [Element.addTail_bare, foldlM_walkAll, List.reverse_cons, List.append_assoc]
    rfl

end

end Builder

def LeadsOff : List Event → Prop
  | .text _ :: _ => False
  | _ => True

/-- Whatever follows, coalescing leaves the sequence as it is. -/
def Solid (es : List Event) : Prop :=
  ∀ rest, es.foldr Event.joinTo rest = es ++ rest

def Settled (es : List Event) : Prop :=
  ∀ rest, LeadsOff rest → es.foldr Event.joinTo rest = es ++ rest

theorem joinTo_text {es : List Event} (h : LeadsOff es) (s : String) :
    (Event.text s).joinTo es = textRun s ++ es := by
  cases es with
  | nil => rfl
  | cons e es =>
    cases e with
    | text t => exact absurd h id
    | _ => rfl

theorem joinTo_joinTo (s t : String) (es : List Event) :
    (Event.text s).joinTo ((Event.text t).joinTo es) = (Event.text (s ++ t)).joinTo es := by
  by_cases h : LeadsOff es
  · rw [joinTo_text h t, joinTo_text h (s ++ t)]
    by_cases ht : t = ""
    · rw [ht, String.append_empty, ← joinTo_text h s]
      rfl
    · simp [textRun, ht, Event.joinTo]
  · cases es with
    | nil => exact absurd trivial h
    | cons e es =>
      cases e with
      | text u => simp [Event.joinTo, String.append_assoc]
      | _ => exact absurd trivial h

theorem foldr_joinTo (e : Event) (es rest : List Event) :
    (e.joinTo es).foldr Event.joinTo rest = e.joinTo (es.foldr Event.joinTo rest) := by
  fun_cases Event.joinTo e es with
  | case1 s t es => exact (joinTo_joinTo s t _).symm
  | case2 s es hes =>
    by_cases hs : s = ""
    · rw [hs, textRun, if_pos rfl, List.nil_append]
      generalize es.foldr Event.joinTo rest = l
      cases l with
      | nil => rfl
      | cons e l => cases e <;> simp [Event.joinTo, textRun]
    · simp [textRun, hs]
  | case3 => rfl

theorem coalesce_append (xs ys : List Event) :
    coalesce (xs ++ ys) = xs.foldr Event.joinTo (coalesce ys) :=
  List.foldr_append

theorem coalesce_coalesce_append (xs ys : List Event) :
    coalesce (coalesce xs ++ ys) = coalesce (xs ++ ys) := by
  rw [coalesce_append, coalesce_append]
  induction xs with
  | nil => rfl
  | cons x xs ih =>
    rw [List.foldr_cons, ← ih]
    exact foldr_joinTo x (coalesce xs) (coalesce ys)

theorem Solid.append {xs ys : List Event} (hx : Solid xs) (hy : Solid ys) : Solid (xs ++ ys) := by
  intro rest
  rw [List.foldr_append, hy, hx, List.append_assoc]

theorem Solid.append_settled {xs ys : List Event} (hx : Solid xs) (hy : Settled ys) :
    Settled (xs ++ ys) := by
  intro rest hrest
  rw [List.foldr_append, hy rest hrest, hx, List.append_assoc]

theorem Settled.append {xs ys : List Event} (hx : Settled xs) (hy : Settled ys)
    (hlead : ∀ rest, LeadsOff rest → LeadsOff (ys ++ rest)) : Settled (xs ++ ys) := by
  intro rest hrest
  rw [List.foldr_append, hy rest hrest, hx _ (hlead rest hrest), List.append_assoc]

theorem Settled.append_solid {xs ys : List Event} (hx : Settled xs) (hy : Solid ys)
    (hlead : ∀ rest, LeadsOff (ys ++ rest)) : Solid (xs ++ ys) := by
  intro rest
  rw [List.foldr_append, hy, hx _ (hlead rest), List.append_assoc]

theorem settled_textRun (s : String) : Settled (textRun s) := by
  intro rest hrest
  by_cases hs : s = ""
  · rw [hs]
    rfl
  · rw [← joinTo_text hrest]
    simp [textRun, hs]

theorem foldr_textRun (s t : String) :
    (textRun s).foldr Event.joinTo (textRun t) = textRun (s ++ t) := by
  by_cases hs : s = ""
  · rw [hs, String.empty_append]
    rfl
  · by_cases ht : t = ""
    · simp [textRun, hs, ht, Event.joinTo]
    · simp [textRun, hs, ht, Event.joinTo]

theorem leadsOff_walkAll (es : List Element) {rest : List Event} (h : LeadsOff rest) :
    LeadsOff (Element.walkAll es ++ rest) := by
  cases es with
  | nil => exact h
  | cons e es =>
    obtain ⟨name, attributes, text, children, tail⟩ := e
    exact trivial

mutual

theorem solid_walk : ∀ e : Element, Solid e.walk
  | .mk name attributes text children _ => by
    have hcontent : Settled (textRun text ++ Element.walkAll children) :=
      (settled_textRun text).append (settled_walkAll children) fun _ => leadsOff_walkAll children
    have hend : Solid [Event.finish] := fun _ => rfl
    have hstart : Solid [Event.start name attributes] := fun _ => rfl
    exact hstart.append (hcontent.append_solid hend fun _ => trivial)

theorem settled_walkAll : ∀ es : List Element, Settled (Element.walkAll es)
  | [] => fun _ _ => rfl
  | e :: es => by
    have hfirst := (solid_walk e).append_settled (settled_textRun e.tail)
    exact hfirst.append (settled_walkAll es) fun _ => leadsOff_walkAll es

end

def Frame.walk (f : Frame) : List Event :=
  .start f.name f.attributes :: (textRun f.text ++ Element.walkAll f.children.reverse)

def Builder.walk (b : Builder) : List Event :=
  (b.root.map Element.walk).getD [] ++ b.opened.reverse.flatMap Frame.walk

theorem Frame.walk_close (f : Frame) : f.close.walk = f.walk ++ [.finish] := by
  simp [Frame.close, Element.walk, Frame.walk]

theorem Frame.walk_addText (f : Frame) (data : String) :
    ∃ before s, Solid before ∧ (∀ rest, LeadsOff (before ++ rest)) ∧
      f.walk = before ++ textRun s ∧ (f.addText data).walk = before ++ textRun (s ++ data) := by
  obtain ⟨name, attributes, text, children⟩ := f
  have hstart : Solid [Event.start name attributes] := fun _ => rfl
  cases children with
  | nil =>
    refine ⟨[.start name attributes], text, hstart, fun _ => trivial, ?_, ?_⟩
    · simp [Frame.walk, Element.walkAll]
    · simp [Frame.walk, Frame.addText, Element.walkAll]
  | cons last older =>
    have hcontent : Settled (textRun text ++ Element.walkAll older.reverse) :=
      (settled_textRun text).append (settled_walkAll _) fun _ => leadsOff_walkAll _
    have hlast : ∀ rest, LeadsOff (last.walk ++ rest) := by
      obtain ⟨name', attributes', text', children', tail⟩ := last
      exact fun _ => trivial
    refine ⟨[Event.start name attributes] ++
        (textRun text ++ Element.walkAll older.reverse ++ last.walk),
      last.tail, hstart.append (hcontent.append_solid (solid_walk last) hlast), fun _ => trivial,
      ?_, ?_⟩
    · simp [Frame.walk, Element.walkAll_append, Element.walkAll]
    · simp [Frame.walk, Frame.addText, Element.walkAll_append, Element.walkAll,
        Element.walk_addTail, Element.tail_addTail]

theorem Frame.settled_walk (f : Frame) : Settled f.walk := by
  obtain ⟨before, s, hbefore, -, hwalk, -⟩ := f.walk_addText ""
  rw [hwalk]
  exact hbefore.append_settled (settled_textRun s)

namespace Builder

theorem walk_cons (f : Frame) (fs : List Frame) (root : Option Element) :
    walk ⟨f :: fs, root⟩ = walk ⟨fs, root⟩ ++ f.walk := by
  simp [walk]

theorem settled_walk (b : Builder) : Settled b.walk := by
  obtain ⟨opened, root⟩ := b
  induction opened with
  | nil =>
    cases root with
    | none => exact fun _ _ => rfl
    | some e =>
      have hnil : Settled [] := fun _ _ => rfl
      simpa [walk] using (solid_walk e).append_settled hnil
  | cons f fs ih =>
    rw [walk_cons]
    exact ih.append f.settled_walk fun _ _ => trivial

theorem walk_addText {b : Builder} (h : b.opened ≠ []) (data : String) :
    (b.addText data).walk = coalesce (b.walk ++ [.text data]) := by
  obtain ⟨opened, root⟩ := b
  cases opened with
  | nil => exact absurd rfl h
  | cons f fs =>
    obtain ⟨before, s, hbefore, hlead, hwalk, hadd⟩ := f.walk_addText data
    have htext : coalesce [.text data] = textRun data := by simp [coalesce, Event.joinTo]
    change walk ⟨f.addText data :: fs, root⟩ = _
    rw [walk_cons, walk_cons, hadd, hwalk, List.append_assoc, List.append_assoc, coalesce_append,
      coalesce_append, coalesce_append, htext, foldr_textRun, hbefore, settled_walk _ _ (hlead _)]

theorem walk_attach {b b' : Builder} {e : Element} (h : b.attach e = .ok b') (ht : e.tail = "") :
    b'.walk = b.walk ++ e.walk := by
  obtain ⟨opened, root⟩ := b
  unfold attach at h
  split at h
  · next f fs hopened =>
    obtain rfl : opened = f :: fs := hopened
    obtain rfl := Except.ok.inj h
    simp [walk, Frame.walk, Element.walkAll_append, Element.walkAll, ht, textRun]
  · cases h
  · next hopened hroot =>
    obtain rfl : opened = [] := hopened
    obtain rfl : root = none := hroot
    obtain rfl := Except.ok.inj h
    simp [walk]

end Builder

theorem ofEvents_walk {e : Element} (h : e.tail = "") : Element.ofEvents e.walk = .ok e := by
  rw [Element.ofEvents, Builder.foldlM_walk, Element.bare_of_tail h]
  rfl

end SymbolDocs.Xml
