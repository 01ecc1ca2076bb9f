import Mathlib.Data.List.Infix
import Mathlib.Data.List.TakeWhile
import SymbolDocs.Xml.Document
import SymbolDocs.Proofs.Xml.Escape
import SymbolDocs.Proofs.Xml.Walk

namespace SymbolDocs.Xml

namespace Scanner

def events (s : Scanner) (l : List Char) : List (Except Fault Event) :=
  (s.tokens l).map (· >>= Event.ofToken)

/-- Whatever follows, the scanner reads `l` as the events `es` and goes on as `next`. -/
def Reads (s : Scanner) (l : List Char) (es : List Event) (next : Scanner) : Prop :=
  ∀ rest, s.events (l ++ rest) = es.map .ok ++ next.events rest

theorem Reads.trans {s t u : Scanner} {l m : List Char} {es fs : List Event}
    (h : s.Reads l es t) (h' : t.Reads m fs u) : s.Reads (l ++ m) (es ++ fs) u := by
  intro rest
  rw [List.append_assoc, h, h', List.map_append, List.append_assoc]

theorem reads_nil (s : Scanner) : s.Reads [] [] s :=
  fun _ => rfl

def eventsOf (token : Option Token) : List (Except Fault Event) :=
  token.toList.map Event.ofToken

theorem reads_of_step {s next : Scanner} {c : Char} {token : Option Token} (es : List Event)
    (h : s.step c = .ok (token, next)) (he : eventsOf token = es.map .ok) :
    s.Reads [c] es next := by
  intro rest
  rw [events, List.singleton_append, tokens, h, ← he]
  cases token <;> rfl

theorem reads_stretch (names : List (List Char)) (mode : List Char → ScanMode)
    (l read : List Char)
    (h : ∀ before c after, l = before ++ c :: after → ∀ p,
      step ⟨p, names, mode (before.reverse ++ read)⟩ c =
        .ok (none, ⟨p + c.utf8Size, names, mode (c :: (before.reverse ++ read))⟩)) (p : Nat) :
    ∃ next, Reads ⟨p, names, mode read⟩ l [] ⟨next, names, mode (l.reverse ++ read)⟩ := by
  induction l generalizing read p with
  | nil => exact ⟨p, reads_nil _⟩
  | cons c l ih =>
    have hfirst := reads_of_step [] (h [] c l rfl p) rfl
    obtain ⟨next, hrest⟩ := ih (c :: read) (fun before d after hl p => by
      simpa using h (c :: before) d after (by rw [hl]; rfl) p) (p + c.utf8Size)
    rw [List.reverse_cons, List.append_assoc, List.singleton_append]
    exact ⟨next, hfirst.trans hrest⟩

def pending (d : List Char) : ScanMode :=
  .text (escape d).reverse

theorem reads_escape (p : Nat) (names : List (List Char)) (d piece : List Char) :
    ∃ next, Reads ⟨p, names, pending d⟩ (escape piece) [] ⟨next, names, pending (d ++ piece)⟩ := by
  rw [pending, pending, escape_append, List.reverse_append]
  refine reads_stretch names .text (escape piece) (escape d).reverse (fun before c after hc q => ?_)
    p
  have hne : c ≠ '<' := by
    rintro rfl
    exact not_mem_escape (c := '<') (by decide) piece (by rw [hc]; simp)
  simp [step, hne]

theorem eventsOf_textToken (d : List Char) (position : Nat) :
    eventsOf (textToken (escape d).reverse position) = (textRun (String.ofList d)).map .ok := by
  cases d with
  | nil => rfl
  | cons c d =>
    have hne : escape (c :: d) ≠ [] := mt escape_eq_nil_iff.mp (List.cons_ne_nil c d)
    have hrun : String.ofList (c :: d) ≠ "" := by simp
    have hmeant : Event.ofToken (.text (escape (c :: d)) position) =
        .ok (.text (String.ofList (c :: d))) := by
      rw [Event.ofToken, unescape_escape]
      rfl
    rw [textToken, if_neg (by simpa using hne), List.reverse_reverse, textRun, if_neg hrun]
    exact congrArg (fun e => [e]) hmeant

theorem events_end (p : Nat) (names : List (List Char)) (d : List Char) :
    events ⟨p, names, pending d⟩ [] = (textRun (String.ofList d)).map .ok := by
  rw [← eventsOf_textToken d (p - 1), events, tokens, finish, pending, List.map_map]
  rfl

theorem reads_opening (p : Nat) (names : List (List Char)) (d : List Char) :
    Reads ⟨p, names, pending d⟩ ['<'] (textRun (String.ofList d)) ⟨p + 1, names, .opened⟩ :=
  reads_of_step _ rfl (eventsOf_textToken d p)

def Closes (names : List (List Char)) (l : List Char) (e : Event)
    (names' : List (List Char)) : Prop :=
  ∀ p, ∃ next, Reads ⟨p, names, .opened⟩ l [e] ⟨next, names', .text []⟩

theorem step_comment (names : List (List Char)) {before : List Char} (h : '-' ∉ before)
    (opening p : Nat) (c : Char) :
    step ⟨p, names, .comment opening (before.reverse ++ ['-', '-', '!'])⟩ c =
      .ok (none, ⟨p + c.utf8Size, names,
        .comment opening (c :: (before.reverse ++ ['-', '-', '!']))⟩) := by
  have hopen : ¬(c = '>' ∧ 5 ≤ (before.reverse ++ ['-', '-', '!']).length ∧
      (before.reverse ++ ['-', '-', '!']).take 2 = ['-', '-']) := by
    -- Without a dash in the body, two of them can only be those at the start, which are too few.
    rintro ⟨-, hlength, htake⟩
    cases hread : before.reverse with
    | nil => simp [hread] at hlength
    | cons d read =>
      have hd : d ∈ before := List.mem_reverse.mp (hread ▸ List.mem_cons_self)
      rw [hread, List.cons_append, List.take_succ_cons] at htake
      exact h ((List.cons.inj htake).1 ▸ hd)
  exact if_neg hopen

theorem closes_comment (names : List (List Char)) {body : List Char} (h : '-' ∉ body) :
    Closes names (['!', '-', '-'] ++ body ++ ['-', '-', '>']) .other names := by
  intro p
  have hstart : Reads ⟨p, names, .opened⟩ ['!', '-', '-'] []
      ⟨p + 1 + 1 + 1, names, .comment p ['-', '-', '!']⟩ := fun _ => rfl
  obtain ⟨q, hbody⟩ := reads_stretch names (.comment p) body ['-', '-', '!']
    (fun before c after hsplit q =>
      step_comment names (fun hmem => h (hsplit ▸ List.mem_append_left _ hmem)) p q c)
    (p + 1 + 1 + 1)
  have hdashes : Reads ⟨q, names, .comment p (body.reverse ++ ['-', '-', '!'])⟩ ['-', '-'] []
      ⟨q + 1 + 1, names, .comment p ('-' :: '-' :: (body.reverse ++ ['-', '-', '!']))⟩ :=
    fun _ => rfl
  have hend : step ⟨q + 1 + 1, names, .comment p ('-' :: '-' :: (body.reverse ++ ['-', '-', '!']))⟩
      '>' = .ok (some .other, ⟨q + 1 + 1 + 1, names, .text []⟩) := by
    have hlength : 5 ≤ ('-' :: '-' :: (body.reverse ++ ['-', '-', '!'])).length := by simp
    have hstart : beginsWith ['!', '-', '-']
        ('-' :: '-' :: (body.reverse ++ ['-', '-', '!'])).reverse := by simp [beginsWith]
    refine (if_pos ⟨rfl, hlength, rfl⟩).trans ?_
    rw [closeComment, if_pos hstart]
    rfl
  refine ⟨q + 1 + 1 + 1, ?_⟩
  have hwhole := hstart.trans (hbody.trans (hdashes.trans (reads_of_step [.other] hend rfl)))
  simpa using hwhole

theorem step_cdata (names : List (List Char)) {data before after : List Char} {c : Char}
    (h : ¬[']', ']', '>'] <:+: data) (hsplit : data = before ++ c :: after) (opening p : Nat) :
    step ⟨p, names, .cdata opening (before.reverse ++ cdataStart.reverse)⟩ c =
      .ok (none, ⟨p + c.utf8Size, names,
        .cdata opening (c :: (before.reverse ++ cdataStart.reverse))⟩) := by
  have hopen : ¬(c = '>' ∧ (before.reverse ++ cdataStart.reverse).take 2 = [']', ']']) := by
    -- Two brackets before a `>` cannot be those at the start, where there is only one.
    rintro ⟨rfl, htake⟩
    obtain ⟨read, hread⟩ : ∃ read, before.reverse = ']' :: ']' :: read := by
      match hread : before.reverse with
      | [] | [_] => simp [hread, cdataStart] at htake
      | d :: e :: read =>
        rw [hread] at htake
        simp only [List.cons_append, List.take_succ_cons, List.take_zero, List.cons.injEq] at htake
        exact ⟨read, by rw [htake.1, htake.2.1]⟩
    refine h ⟨read.reverse, after, ?_⟩
    rw [hsplit, List.reverse_eq_iff.mp hread]
    simp
  exact if_neg hopen

theorem closes_cdata (names : List (List Char)) {data : List Char}
    (h : ¬[']', ']', '>'] <:+: data) :
    Closes names (cdataStart ++ data ++ [']', ']', '>']) (.cdata (String.ofList data)) names := by
  intro p
  have hstart : Reads ⟨p, names, .opened⟩ cdataStart []
      ⟨p + 1 + 1 + 1 + 1 + 1 + 1 + 1 + 1, names, .cdata p cdataStart.reverse⟩ := fun _ => rfl
  obtain ⟨q, hdata⟩ := reads_stretch names (.cdata p) data cdataStart.reverse
    (fun before c after hsplit q => step_cdata names h hsplit p q)
    (p + 1 + 1 + 1 + 1 + 1 + 1 + 1 + 1)
  have hbrackets : Reads ⟨q, names, .cdata p (data.reverse ++ cdataStart.reverse)⟩ [']', ']'] []
      ⟨q + 1 + 1, names, .cdata p (']' :: ']' :: (data.reverse ++ cdataStart.reverse))⟩ :=
    fun _ => rfl
  have hend : step ⟨q + 1 + 1, names, .cdata p (']' :: ']' :: (data.reverse ++ cdataStart.reverse))⟩
      '>' = .ok (some (.cdata data), ⟨q + 1 + 1 + 1, names, .text []⟩) := by
    have hbegins : beginsWith cdataStart
        (']' :: ']' :: (data.reverse ++ cdataStart.reverse)).reverse := by
      simp [beginsWith, cdataStart]
    have hheld : ((data.reverse ++ cdataStart.reverse).reverse).drop cdataStart.length = data := by
      simp
    simp only [step, closeCdata, if_pos hbegins, List.drop_succ_cons, List.drop_zero, hheld]
    rfl
  refine ⟨q + 1 + 1 + 1, ?_⟩
  have hwhole := hstart.trans
    (hdata.trans (hbrackets.trans (reads_of_step [.cdata (String.ofList data)] hend rfl)))
  simpa using hwhole

theorem not_mark_of_isName {name : String} (h : isName name) :
    ∀ c ∈ name.toList, c ≠ '>' ∧ c ≠ '"' ∧ c ≠ '\'' := by
  intro c hc
  obtain ⟨d, r, hd, -, hchars⟩ := exists_of_isName h
  have hname := hchars c (hd ▸ hc)
  exact ⟨ne_of_isNameChar hname (by decide), ne_of_isNameChar hname (by decide),
    ne_of_isNameChar hname (by decide)⟩

theorem endName_reverse {name : String} (h : isName name) :
    endName name.toList.reverse = name.toList := by
  obtain ⟨c, r, hname, -, hchars⟩ := exists_of_isName h
  have hkept : name.toList.reverse.dropWhile isSpace = name.toList.reverse := by
    rw [List.dropWhile_eq_self_iff]
    intro hlength
    rw [Bool.not_eq_true]
    exact isSpace_of_isNameChar (hchars _ (hname ▸ List.mem_reverse.mp (List.getElem_mem hlength)))
  have hne : name.toList.reverse ≠ [] := by simp [hname]
  rw [endName, hkept]
  split
  · next hnil => exact absurd hnil hne
  · rw [List.reverse_reverse]

theorem closes_end {name : String} (h : isName name) (names : List (List Char)) :
    Closes (name.toList :: names) ('/' :: name.toList ++ ['>']) .finish names := by
  intro p
  have hstart : Reads ⟨p, name.toList :: names, .opened⟩ ['/'] []
      ⟨p + 1, name.toList :: names, .endTag p []⟩ := fun _ => rfl
  have hstay : ∀ c ∈ name.toList, c ≠ '>' := fun c hc => (not_mark_of_isName h c hc).1
  obtain ⟨q, hname⟩ := reads_stretch (name.toList :: names) (.endTag p) name.toList []
    (fun before c after hsplit q => if_neg (hstay c (by rw [hsplit]; simp))) (p + 1)
  have hend : step ⟨q, name.toList :: names, .endTag p (name.toList.reverse ++ [])⟩ '>' =
      .ok (some .finish, ⟨q + 1, names, .text []⟩) := by
    simp only [step, List.append_nil, closeEnd, endName_reverse h, if_true]
    rfl
  refine ⟨q + 1, ?_⟩
  have hwhole := hstart.trans (hname.trans (reads_of_step [.finish] hend rfl))
  simpa using hwhole

theorem reads_unquoted (names : List (List Char)) (l read : List Char)
    (h : ∀ c ∈ l, c ≠ '>' ∧ c ≠ '"' ∧ c ≠ '\'') (p : Nat) :
    ∃ next, Reads ⟨p, names, .startTag none read⟩ l []
      ⟨next, names, .startTag none (l.reverse ++ read)⟩ := by
  refine reads_stretch names (.startTag none) l read (fun before c after hsplit q => ?_) p
  obtain ⟨hend, hdouble, hsingle⟩ := h c (by rw [hsplit]; simp)
  simp [step, stepStart, hend, hdouble, hsingle]

theorem reads_quoted (names : List (List Char)) (l read : List Char) (h : '"' ∉ l) (p : Nat) :
    ∃ next, Reads ⟨p, names, .startTag (some '"') read⟩ l []
      ⟨next, names, .startTag (some '"') (l.reverse ++ read)⟩ := by
  refine reads_stretch names (.startTag (some '"')) l read (fun before c after hsplit q => ?_) p
  have hne : c ≠ '"' := by
    rintro rfl
    exact h (by rw [hsplit]; simp)
  simp [step, stepStart, hne]

theorem reads_attributeText (names : List (List Char)) (read : List Char) {a : Attribute}
    (h : isName a.1) (p : Nat) :
    ∃ next, Reads ⟨p, names, .startTag none read⟩ (attributeText a) []
      ⟨next, names, .startTag none ((attributeText a).reverse ++ read)⟩ := by
  have hkey : ∀ c ∈ ' ' :: a.1.toList ++ ['='], c ≠ '>' ∧ c ≠ '"' ∧ c ≠ '\'' := by
    intro c hc
    rw [List.cons_append, List.mem_cons, List.mem_append, List.mem_singleton] at hc
    rcases hc with rfl | hc | rfl
    · decide
    · exact not_mark_of_isName h c hc
    · decide
  obtain ⟨q, hq⟩ := reads_unquoted names (' ' :: a.1.toList ++ ['=']) read hkey p
  have hopen : ∀ read, Reads ⟨q, names, .startTag none read⟩ ['"'] []
      ⟨q + 1, names, .startTag (some '"') ('"' :: read)⟩ := fun _ _ => rfl
  obtain ⟨r, hr⟩ := reads_quoted names (escape a.2.toList)
    ('"' :: ((' ' :: a.1.toList ++ ['=']).reverse ++ read)) (not_mem_escape (by decide) _) (q + 1)
  have hclose : ∀ read, Reads ⟨r, names, .startTag (some '"') read⟩ ['"'] []
      ⟨r + 1, names, .startTag none ('"' :: read)⟩ := fun _ _ => rfl
  refine ⟨r + 1, ?_⟩
  have hwhole := hq.trans ((hopen _).trans (hr.trans (hclose _)))
  simpa [attributeText] using hwhole

theorem reads_attributes (names : List (List Char)) (read : List Char)
    {attributes : List Attribute} (h : ∀ a ∈ attributes, isName a.1) (p : Nat) :
    ∃ next, Reads ⟨p, names, .startTag none read⟩ (attributes.flatMap attributeText) []
      ⟨next, names, .startTag none ((attributes.flatMap attributeText).reverse ++ read)⟩ := by
  induction attributes generalizing read p with
  | nil => exact ⟨p, reads_nil _⟩
  | cons a as ih =>
    rw [List.forall_mem_cons] at h
    obtain ⟨q, hq⟩ := reads_attributeText names read h.1 p
    obtain ⟨r, hr⟩ := ih ((attributeText a).reverse ++ read) h.2 q
    refine ⟨r, ?_⟩
    rw [List.flatMap_cons, List.reverse_append, List.append_assoc]
    exact hq.trans hr

theorem events_opened {c : Char} (h : isNameStart c) (p : Nat) (names : List (List Char))
    (l : List Char) :
    events ⟨p, names, .opened⟩ (c :: l) = events ⟨p, names, .startTag none []⟩ (c :: l) := by
  have hne (d : Char) (hd : isNameChar d = false) : c ≠ d :=
    ne_of_isNameChar (isNameChar_of_isNameStart h) hd
  have hstep : step ⟨p, names, .opened⟩ c = step ⟨p, names, .startTag none []⟩ c := by
    simp only [step, hne '!' (by decide), hne '/' (by decide), hne '?' (by decide), if_false]
    rfl
  rw [events, events, tokens, tokens, hstep]

theorem reads_tagText (names : List (List Char)) {name : String} {attributes : List Attribute}
    (h : IsTag name attributes) (p : Nat) :
    ∃ next, Reads ⟨p, names, .opened⟩ (tagText name attributes) []
      ⟨next, names, .startTag none (tagText name attributes).reverse⟩ := by
  obtain ⟨c, r, hname, hc, -⟩ := exists_of_isName h.name
  obtain ⟨q, hq⟩ := reads_unquoted names name.toList [] (not_mark_of_isName h.name) p
  rw [List.append_nil] at hq
  obtain ⟨n, hn⟩ := reads_attributes names name.toList.reverse h.keys q
  refine ⟨n, fun rest => ?_⟩
  have hwhole := hq.trans hn rest
  rw [tagText, List.reverse_append]
  rw [hname, List.cons_append, List.cons_append] at hwhole ⊢
  exact (events_opened hc p names _).trans hwhole

theorem closeStart_tagText {name : String} {attributes : List Attribute}
    (h : IsTag name attributes) (s : Scanner) (p : Nat) :
    s.closeStart p (tagText name attributes).reverse =
      (.start (tagText name attributes), ⟨p, name.toList :: s.names, .text []⟩) := by
  have hlast : (tagText name attributes).reverse.head? ≠ some '/' := by
    rcases attributes.eq_nil_or_concat with rfl | ⟨before, a, rfl⟩
    · intro hslash
      have hmem : '/' ∈ name.toList := by
        rw [tagText, List.flatMap_nil, List.append_nil] at hslash
        exact List.mem_reverse.mp (List.mem_of_head? hslash)
      obtain ⟨c, r, hname, -, hchars⟩ := exists_of_isName h.name
      exact absurd (hchars '/' (hname ▸ hmem)) (by decide)
    · simp [tagText, attributeText]
  unfold closeStart
  split
  · next read hread => rw [hread] at hlast; exact absurd rfl hlast
  · simp [tagName_tagText h.name]

theorem closes_start (names : List (List Char)) {name : String} {attributes : List Attribute}
    (h : IsTag name attributes) :
    Closes names (tagText name attributes ++ ['>']) (.start name attributes)
      (name.toList :: names) := by
  intro p
  obtain ⟨q, hq⟩ := reads_tagText names h p
  have hend : step ⟨q, names, .startTag none (tagText name attributes).reverse⟩ '>' =
      .ok (some (.start (tagText name attributes)), ⟨q + 1, name.toList :: names, .text []⟩) := by
    simp only [step, stepStart, if_true, closeStart_tagText h]
    rfl
  have hevent : eventsOf (some (.start (tagText name attributes))) =
      [Event.start name attributes].map .ok := by
    simp [eventsOf, Event.ofToken, tagAttributes_tagText h,
      tagName_tagText h.name, Except.map]
  exact ⟨q + 1, hq.trans (reads_of_step _ hend hevent)⟩

theorem closes_empty (names : List (List Char)) {name : String} {attributes : List Attribute}
    (h : IsTag name attributes) :
    Closes names (tagText name attributes ++ ['/', '>']) (.empty name attributes) names := by
  intro p
  obtain ⟨q, hq⟩ := reads_tagText names h p
  have hslash : Reads ⟨q, names, .startTag none (tagText name attributes).reverse⟩ ['/'] []
      ⟨q + 1, names, .startTag none ('/' :: (tagText name attributes).reverse)⟩ := fun _ => rfl
  have hend : step ⟨q + 1, names, .startTag none ('/' :: (tagText name attributes).reverse)⟩ '>' =
      .ok (some (.empty (tagText name attributes)), ⟨q + 1 + 1, names, .text []⟩) := by
    simp only [step, stepStart, if_true, closeStart, List.reverse_reverse]
    rfl
  have hevent : eventsOf (some (.empty (tagText name attributes))) =
      [Event.empty name attributes].map .ok := by
    simp [eventsOf, Event.ofToken, tagAttributes_tagText h,
      tagName_tagText h.name, Except.map]
  exact ⟨q + 1 + 1, hq.trans (hslash.trans (reads_of_step _ hend hevent))⟩

end Scanner

end SymbolDocs.Xml
