import SymbolDocs.Proofs.Outcome
import SymbolDocs.Proofs.Xml.Size
import SymbolDocs.Xml.Document

namespace SymbolDocs.Xml

theorem Element.sizeAll_reverse (es : List Element) : sizeAll es.reverse = sizeAll es := by
  induction es with
  | nil => rfl
  | cons e es ih =>
    rw [List.reverse_cons, sizeAll_append, ih, sizeAll, sizeAll, sizeAll, Nat.add_zero]
    exact Nat.add_comm _ _

def Token.opens : Token → Nat
  | start _ => 1
  | empty _ => 1
  | _ => 0

def opensAll : List (Except Fault Token) → Nat
  | [] => 0
  | .ok token :: ts => token.opens + opensAll ts
  | .error _ :: ts => opensAll ts

namespace Scanner

def due (s : Scanner) : Nat :=
  match s.mode with
  | .startTag _ _ => 1
  | _ => 0

def opensIn (token : Option Token) : Nat :=
  (token.map Token.opens).getD 0

theorem opens_stepStart {s next : Scanner} {position : Nat} {quote : Option Char}
    {read : List Char} {c : Char} {token : Option Token}
    (h : s.stepStart position quote read c = (token, next)) : opensIn token + next.due = 1 := by
  cases quote with
  | some q =>
    cases h
    rfl
  | none =>
    simp only [stepStart] at h
    split at h
    · unfold closeStart at h
      split at h <;> (cases h; rfl)
    · split at h <;> (cases h; rfl)

theorem opens_closeComment {position : Nat} {read : List Char} {token : Token}
    (h : closeComment position read = .ok token) : token.opens = 0 := by
  unfold closeComment at h
  split at h <;> cases h
  rfl

theorem opens_closeCdata {position : Nat} {read : List Char} {token : Token}
    (h : closeCdata position read = .ok token) : token.opens = 0 := by
  unfold closeCdata at h
  split at h <;> cases h
  rfl

theorem opens_closeDoctype {position : Nat} {read : List Char} {token : Token}
    (h : closeDoctype position read = .ok token) : token.opens = 0 := by
  unfold closeDoctype at h
  split at h
  · cases h
  · split at h <;> cases h
    rfl

theorem opens_step {s next : Scanner} {c : Char} {token : Option Token}
    (h : s.step c = .ok (token, next)) : opensIn token + next.due ≤ 1 := by
  -- Elements come from `opened` and `startTag` alone.
  obtain ⟨position, names, mode⟩ := s
  cases mode with
  | text read =>
    simp only [step] at h
    split at h <;> cases h
    · unfold textToken
      split <;> exact Nat.zero_le 1
    · exact Nat.zero_le 1
  | opened =>
    simp only [step] at h
    split at h
    · cases h
      exact Nat.zero_le 1
    split at h
    · cases h
      exact Nat.zero_le 1
    split at h
    · cases h
      exact Nat.zero_le 1
    · exact Nat.le_of_eq (opens_stepStart (Except.ok.inj h))
  | startTag quote read => exact Nat.le_of_eq (opens_stepStart (Except.ok.inj h))
  | endTag opening read =>
    simp only [step] at h
    split at h
    · obtain ⟨names', -, hnext⟩ := bind_eq_ok.mp h
      cases hnext
      exact Nat.zero_le 1
    · cases h
      exact Nat.zero_le 1
  | declaration opening read =>
    simp only [step] at h
    split at h
    · obtain ⟨-, -, hnext⟩ := bind_eq_ok.mp h
      cases hnext
      exact Nat.zero_le 1
    · cases h
      exact Nat.zero_le 1
  | bang opening =>
    simp only [step] at h
    split at h
    · cases h
      exact Nat.zero_le 1
    split at h
    · cases h
      exact Nat.zero_le 1
    split at h <;> cases h
    exact Nat.zero_le 1
  | comment opening read =>
    simp only [step] at h
    split at h
    · obtain ⟨closed, hclosed, hnext⟩ := bind_eq_ok.mp h
      cases hnext
      exact le_of_eq_of_le (opens_closeComment hclosed) (Nat.zero_le 1)
    · cases h
      exact Nat.zero_le 1
  | cdata opening read =>
    simp only [step] at h
    split at h
    · obtain ⟨closed, hclosed, hnext⟩ := bind_eq_ok.mp h
      cases hnext
      exact le_of_eq_of_le (opens_closeCdata hclosed) (Nat.zero_le 1)
    · cases h
      exact Nat.zero_le 1
  | doctype opening read =>
    simp only [step] at h
    split at h
    · obtain ⟨closed, hclosed, hnext⟩ := bind_eq_ok.mp h
      cases hnext
      exact le_of_eq_of_le (opens_closeDoctype hclosed) (Nat.zero_le 1)
    · cases h
      exact Nat.zero_le 1

theorem opensAll_finish (s : Scanner) : opensAll s.finish ≤ s.due := by
  obtain ⟨position, names, mode⟩ := s
  cases mode with
  | text read =>
    simp only [finish, textToken]
    split <;> exact Nat.le_refl 0
  | startTag quote read =>
    simp only [finish, closeStart]
    split <;> exact Nat.le_refl 1
  | endTag opening read =>
    simp only [finish]
    cases closeEnd ⟨position, names, .endTag opening read⟩ opening read <;> exact Nat.le_refl 0
  | declaration opening read =>
    simp only [finish]
    cases closeDeclaration opening read <;> exact Nat.le_refl 0
  | _ => exact Nat.le_refl 0

theorem opensAll_tokens (s : Scanner) (l : List Char) :
    opensAll (s.tokens l) ≤ l.length + s.due := by
  -- A tag that the end of the input cuts off still counts, so what is due is part of the bound.
  induction l generalizing s with
  | nil => exact Nat.le_trans s.opensAll_finish (Nat.le_add_left _ _)
  | cons c l ih =>
    rw [tokens]
    split
    · exact Nat.zero_le _
    · next next hstep =>
      have hle : 0 + next.due ≤ 1 := opens_step hstep
      have hrest := ih next
      rw [List.length_cons]
      omega
    · next token next hstep =>
      have hle : token.opens + next.due ≤ 1 := opens_step hstep
      have hrest := ih next
      rw [opensAll, List.length_cons]
      omega

end Scanner

theorem opensAll_tokenize (l : List Char) : opensAll (tokenize l) ≤ l.length := by
  refine Nat.le_trans (Scanner.opensAll_tokens Scanner.initial (dropMark l)) ?_
  change (dropMark l).length ≤ l.length
  cases l with
  | nil => exact Nat.le_refl 0
  | cons c r =>
    rw [dropMark]
    split
    · exact Nat.le_succ _
    · exact Nat.le_refl _

def Frame.weight (f : Frame) : Nat :=
  Element.sizeAll f.children + 1

def Builder.weight (b : Builder) : Nat :=
  b.opened.foldr (fun f n => f.weight + n) ((b.root.map Element.size).getD 0)

theorem Frame.size_close (f : Frame) : f.close.size = f.weight := by
  rw [Frame.close, Element.size, Frame.weight, Element.sizeAll_reverse]

theorem Frame.weight_addText (f : Frame) (data : String) : (f.addText data).weight = f.weight := by
  unfold Frame.addText
  split
  · rfl
  · next last before hchildren =>
    obtain ⟨name, attributes, text, children, tail⟩ := last
    simp [Frame.weight, hchildren, Element.sizeAll, Element.addTail, Element.size]

namespace Builder

theorem weight_cons (f : Frame) (fs : List Frame) (root : Option Element) :
    weight ⟨f :: fs, root⟩ = f.weight + weight ⟨fs, root⟩ :=
  rfl

theorem weight_attach {b b' : Builder} {e : Element} (h : b.attach e = .ok b') :
    b'.weight = b.weight + e.size := by
  obtain ⟨opened, root⟩ := b
  unfold attach at h
  split at h
  · next f fs hopened =>
    obtain rfl : opened = f :: fs := hopened
    obtain rfl := Except.ok.inj h
    simp only [weight_cons, Frame.weight, Element.sizeAll]
    omega
  · cases h
  · next hopened hroot =>
    obtain rfl : opened = [] := hopened
    obtain rfl : root = none := hroot
    obtain rfl := Except.ok.inj h
    simp [weight]

theorem weight_addText (b : Builder) (data : String) : (b.addText data).weight = b.weight := by
  obtain ⟨opened, root⟩ := b
  cases opened with
  | nil => rfl
  | cons f fs =>
    change weight ⟨f.addText data :: fs, root⟩ = _
    rw [weight_cons, weight_cons, Frame.weight_addText]

theorem weight_add {b b' : Builder} {token : Token} {e : Event} (he : Event.ofToken token = .ok e)
    (h : b.add e = .ok b') : b'.weight = b.weight + token.opens := by
  cases token with
  | text raw position =>
    obtain ⟨data, -, rfl⟩ := map_eq_ok.mp he
    obtain rfl := Except.ok.inj h
    exact b.weight_addText data
  | cdata raw =>
    obtain rfl := Except.ok.inj he
    obtain rfl := Except.ok.inj h
    exact b.weight_addText _
  | start tag =>
    obtain ⟨attributes, -, rfl⟩ := map_eq_ok.mp he
    obtain rfl := Except.ok.inj h
    rw [weight_cons]
    exact Nat.add_comm 1 b.weight
  | empty tag =>
    obtain ⟨attributes, -, rfl⟩ := map_eq_ok.mp he
    exact weight_attach h
  | finish =>
    obtain rfl := Except.ok.inj he
    obtain ⟨opened, root⟩ := b
    cases opened with
    | nil => cases h
    | cons f fs =>
      rw [weight_attach h, Frame.size_close, weight_cons]
      exact Nat.add_comm _ _
  | other =>
    obtain rfl := Except.ok.inj he
    obtain rfl := Except.ok.inj h
    rfl

theorem weight_foldlM {ts : List (Except Fault Token)} {b b' : Builder}
    (h : ts.foldlM (fun b token => do b.add (← Event.ofToken (← token))) b = .ok b') :
    b'.weight = b.weight + opensAll ts := by
  induction ts generalizing b with
  | nil =>
    obtain rfl := Except.ok.inj h
    rfl
  | cons t ts ih =>
    rw [List.foldlM_cons] at h
    obtain ⟨b₁, hfirst, hrest⟩ := bind_eq_ok.mp h
    obtain ⟨token, rfl, hevent⟩ := bind_eq_ok.mp hfirst
    obtain ⟨e, he, hadd⟩ := bind_eq_ok.mp hevent
    rw [ih hrest, weight_add he hadd, opensAll, Nat.add_assoc]

end Builder

theorem size_le_of_parseDocument {content : String} {root : Element}
    (h : parseDocument content = .ok root) : root.size ≤ content.length := by
  obtain ⟨⟨opened, built⟩, hfold, hresult⟩ := bind_eq_ok.mp h
  have hweight := Builder.weight_foldlM hfold
  match opened, built with
  | [], some e =>
    obtain rfl := Except.ok.inj hresult
    have hle := opensAll_tokenize content.toList
    have hsize : e.size = opensAll (tokenize content.toList) := by
      simpa [Builder.weight, Builder.empty] using hweight
    rw [hsize, ← String.length_toList]
    exact hle

end SymbolDocs.Xml
