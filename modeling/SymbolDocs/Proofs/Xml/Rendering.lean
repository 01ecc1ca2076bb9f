import SymbolDocs.Proofs.Xml.Balance
import SymbolDocs.Proofs.Xml.Scan
/-!
Documents as they are written. One tree can be written in many ways: character data can be cut into
pieces, each with references or as a section, there can be comments between them, and an element
with nothing inside can be one tag or two. Reading any of these gives the tree back.
-/

namespace SymbolDocs.Xml

def startTag (name : String) (attributes : List Attribute) : List Char :=
  '<' :: (tagText name attributes ++ ['>'])

def emptyTag (name : String) (attributes : List Attribute) : List Char :=
  '<' :: (tagText name attributes ++ ['/', '>'])

def endTag (name : String) : List Char :=
  '<' :: ('/' :: name.toList ++ ['>'])

def cdataSection (data : List Char) : List Char :=
  '<' :: (Scanner.cdataStart ++ data ++ [']', ']', '>'])

def comment (body : List Char) : List Char :=
  '<' :: (['!', '-', '-'] ++ body ++ ['-', '-', '>'])

inductive RendersText : List Char → List Char → Prop
  | nil : RendersText [] []
  | escaped (piece : List Char) {d l : List Char} (rest : RendersText d l) :
      RendersText (piece ++ d) (escape piece ++ l)
  | cdata (piece : List Char) (h : ¬[']', ']', '>'] <:+: piece) {d l : List Char}
      (rest : RendersText d l) : RendersText (piece ++ d) (cdataSection piece ++ l)
  | comment (body : List Char) (h : '-' ∉ body) {d l : List Char} (rest : RendersText d l) :
      RendersText d (comment body ++ l)

mutual

inductive Renders : Element → List Char → Prop
  | emptyTag (name : String) (attributes : List Attribute) (tail : String) :
      Renders (.mk name attributes "" [] tail) (emptyTag name attributes)
  | tags (name : String) (attributes : List Attribute) (tail : String) {text : String}
      {children : List Element} {content inner : List Char} (data : RendersText text.toList content)
      (elements : RendersAll children inner) :
      Renders (.mk name attributes text children tail)
        (startTag name attributes ++ (content ++ (inner ++ endTag name)))

inductive RendersAll : List Element → List Char → Prop
  | nil : RendersAll [] []
  | cons {e : Element} {es : List Element} {l content rest : List Char} (first : Renders e l)
      (data : RendersText e.tail.toList content) (others : RendersAll es rest) :
      RendersAll (e :: es) (l ++ (content ++ rest))

end

def Alike (es fs : List Event) : Prop :=
  ∀ b, es.foldlM Builder.add b = fs.foldlM Builder.add b

theorem Alike.trans {es fs gs : List Event} (h : Alike es fs) (h' : Alike fs gs) : Alike es gs :=
  fun b => (h b).trans (h' b)

theorem Alike.append_left {es fs : List Event} (h : Alike es fs) (gs : List Event) :
    Alike (gs ++ es) (gs ++ fs) := by
  intro b
  rw [List.foldlM_append, List.foldlM_append]
  exact bind_congr fun b' => h b'

theorem Alike.append_right {es fs : List Event} (h : Alike es fs) (gs : List Event) :
    Alike (es ++ gs) (fs ++ gs) := by
  intro b
  rw [List.foldlM_append, List.foldlM_append, h b]

theorem alike_plain (e : Event) : Alike [e] e.plain := fun b => by
  rw [Builder.foldlM_plain]
  exact bind_pure (b.add e)

theorem alike_textRun (s : String) : Alike [.text s] (textRun s) := fun b =>
  (Builder.foldlM_textRun b s).symm

theorem alike_textRun_append (s t : String) :
    Alike (textRun s ++ textRun t) (textRun (s ++ t)) := by
  intro b
  rw [List.foldlM_append, Builder.foldlM_textRun, Builder.foldlM_textRun,
    ← Builder.addText_addText]
  exact Builder.foldlM_textRun _ t

/-- Whatever character data is pending, the scanner takes `l` as if it were the events `es`; what is
pending at the end counts as read. -/
def Means (names : List (List Char)) (l : List Char) (es : List Event)
    (names' : List (List Char)) : Prop :=
  ∀ p d, ∃ next d' fs,
    Scanner.Reads ⟨p, names, Scanner.pending d⟩ l fs ⟨next, names', Scanner.pending d'⟩ ∧
      Alike (fs ++ textRun (String.ofList d')) (textRun (String.ofList d) ++ es)

theorem means_nil (names : List (List Char)) : Means names [] [] names := by
  intro p d
  refine ⟨p, d, [], Scanner.reads_nil _, fun b => ?_⟩
  rw [List.nil_append, List.append_nil]

theorem Means.trans {names names' names'' : List (List Char)} {l m : List Char}
    {es fs : List Event} (h : Means names l es names') (h' : Means names' m fs names'') :
    Means names (l ++ m) (es ++ fs) names'' := by
  intro p d
  obtain ⟨q, d', es', hread, halike⟩ := h p d
  obtain ⟨r, d'', fs', hread', halike'⟩ := h' q d'
  -- What is pending between the two belongs to the end of the first and the start of the second.
  refine ⟨r, d'', es' ++ fs', hread.trans hread', ?_⟩
  have hlast := halike'.append_left es'
  have hfirst := halike.append_right fs
  rw [← List.append_assoc, ← List.append_assoc] at hlast
  rw [← List.append_assoc]
  exact hlast.trans hfirst

theorem Means.congr {names names' : List (List Char)} {l : List Char} {es fs : List Event}
    (h : Means names l es names') (hes : Alike es fs) : Means names l fs names' := by
  intro p d
  obtain ⟨q, d', gs, hread, halike⟩ := h p d
  exact ⟨q, d', gs, hread, halike.trans (hes.append_left _)⟩

theorem means_of_closes {names names' : List (List Char)} {l : List Char} {e : Event}
    (h : Scanner.Closes names l e names') : Means names ('<' :: l) e.plain names' := by
  intro p d
  obtain ⟨q, hq⟩ := h (p + 1)
  refine ⟨q, [], textRun (String.ofList d) ++ [e], (Scanner.reads_opening p names d).trans hq, ?_⟩
  rw [show textRun (String.ofList []) = [] from rfl, List.append_nil]
  exact (alike_plain e).append_left _

theorem means_escape (names : List (List Char)) (piece : List Char) :
    Means names (escape piece) (textRun (String.ofList piece)) names := by
  intro p d
  obtain ⟨q, hq⟩ := Scanner.reads_escape p names d piece
  refine ⟨q, d ++ piece, [], hq, fun b => ?_⟩
  rw [List.nil_append, String.ofList_append]
  exact (alike_textRun_append _ _ b).symm

theorem means_of_rendersText {d l : List Char} (h : RendersText d l) (names : List (List Char)) :
    Means names l (textRun (String.ofList d)) names := by
  induction h with
  | nil => exact means_nil names
  | escaped piece rest ih =>
    rw [String.ofList_append]
    exact ((means_escape names piece).trans ih).congr (alike_textRun_append _ _)
  | cdata piece h rest ih =>
    have hpiece := (means_of_closes (Scanner.closes_cdata names h)).congr (alike_textRun _)
    rw [String.ofList_append]
    exact (hpiece.trans ih).congr (alike_textRun_append _ _)
  | comment body h rest ih => exact (means_of_closes (Scanner.closes_comment names h)).trans ih

mutual

theorem means_of_renders {e : Element} {l : List Char} :
    Renders e l → (∀ d ∈ e.preorder, IsTag d.name d.attributes) →
      ∀ names, Means names l e.walk names
  | .emptyTag name attributes tail, htags, names => by
    have htag := htags _ List.mem_cons_self
    exact means_of_closes (Scanner.closes_empty names htag)
  | .tags name attributes tail data elements, htags, names => by
    rename_i text children content inner
    have htag : IsTag name attributes := htags _ List.mem_cons_self
    have hinner := means_of_rendersAll elements (fun d hd => htags d (List.mem_cons_of_mem _ hd))
      (name.toList :: names)
    have hdata := means_of_rendersText data (name.toList :: names)
    have hstart := means_of_closes (Scanner.closes_start names htag)
    have hend := means_of_closes (Scanner.closes_end htag.name names)
    have hwhole := hstart.trans (hdata.trans (hinner.trans hend))
    rw [String.ofList_toList] at hwhole
    rw [Element.walk, List.append_assoc]
    exact hwhole

theorem means_of_rendersAll {es : List Element} {l : List Char} :
    RendersAll es l → (∀ d ∈ Element.preorderAll es, IsTag d.name d.attributes) →
      ∀ names, Means names l (Element.walkAll es) names
  | .nil, _, names => means_nil names
  | .cons first data others, htags, names => by
    rw [Element.preorderAll, List.forall_mem_append] at htags
    have hfirst := means_of_renders first htags.1 names
    have hdata := means_of_rendersText data names
    have hothers := means_of_rendersAll others htags.2 names
    rw [String.ofList_toList] at hdata
    rw [Element.walkAll, List.append_assoc]
    exact hfirst.trans (hdata.trans hothers)

end

theorem Renders.dropMark {e : Element} {l : List Char} (h : Renders e l) : dropMark l = l := by
  cases h <;> rfl

theorem parseDocument_of_renders {t : Element} {s : String} (htail : t.tail = "")
    (htags : ∀ e ∈ t.preorder, IsTag e.name e.attributes) (h : Renders t s.toList) :
    parseDocument s = .ok t := by
  obtain ⟨next, d, es, hread, halike⟩ := means_of_renders h htags [] 0 []
  have hevents : (tokenize s.toList).map (· >>= Event.ofToken) =
      (es ++ textRun (String.ofList d)).map .ok := by
    have hall := hread []
    rw [List.append_nil, Scanner.events_end, ← List.map_append] at hall
    rw [tokenize, h.dropMark]
    exact hall
  rw [parseDocument_eq_ofEvents hevents, Element.ofEvents, halike]
  exact ofEvents_walk htail

def piecewiseText : String :=
  "<a k=\"1&lt;2\"><!-- ' -->x&amp;<![CDATA[<y>]]>]]&gt;<b/>z<c k=\"\" l=\"\"></c></a>"

def piecewiseTree : Element :=
  .mk "a" [("k", "1<2")] "x&<y>]]>"
    [.mk "b" [] "" [] "z", .mk "c" [("k", ""), ("l", "")] "" [] ""] ""

theorem renders_piecewiseText : Renders piecewiseTree piecewiseText.toList := by
  have htext : RendersText "x&<y>]]>".toList _ :=
    .comment [' ', '\'', ' '] (by decide) (.escaped ['x', '&'] (.cdata ['<', 'y', '>'] (by decide)
      (.escaped [']', ']', '>'] .nil)))
  have hb : Renders (.mk "b" [] "" [] "z") _ := .emptyTag "b" [] "z"
  have htail : RendersText "z".toList _ := .escaped ['z'] .nil
  have hempty : RendersText "".toList [] := .nil
  have hc : Renders (.mk "c" [("k", ""), ("l", "")] "" [] "") _ :=
    .tags "c" [("k", ""), ("l", "")] "" hempty .nil
  exact .tags "a" [("k", "1<2")] "" htext (.cons hb htail (.cons hc hempty .nil))

theorem parseDocument_of_renders_piecewiseText :
    parseDocument piecewiseText = .ok piecewiseTree := by
  refine parseDocument_of_renders rfl ?_ renders_piecewiseText
  intro e he
  simp only [piecewiseTree, Element.preorder, Element.preorderAll, List.append_nil,
    List.cons_append, List.nil_append, List.mem_cons, List.not_mem_nil, or_false] at he
  rcases he with rfl | rfl | rfl <;> exact ⟨by decide, by decide, by decide⟩

end SymbolDocs.Xml
