import SymbolDocs.Proofs.Index.Lookup
/-!
What is read with one way to resolve references is read with any other that resolves as much. Which
error a reference fails with may differ, and only that.
-/

namespace SymbolDocs

open Xml (Element)

def Below {ε α : Type} (x y : Except ε α) : Prop :=
  ∀ a, x = .ok a → y = .ok a

section Below

variable {ε α β : Type} {x y : Except ε α}

theorem Below.refl (x : Except ε α) : Below x x :=
  fun _ h => h

theorem Below.bind {f g : α → Except ε β} (h : Below x y) (hf : ∀ a, Below (f a) (g a)) :
    Below (x >>= f) (y >>= g) := by
  intro b hb
  obtain ⟨a, ha, hb⟩ := bind_eq_ok.mp hb
  exact bind_eq_ok.mpr ⟨a, h a ha, hf a b hb⟩

theorem Below.map (h : Below x y) (f : α → β) : Below (x.map f) (y.map f) := by
  intro b hb
  obtain ⟨a, ha, hb⟩ := map_eq_ok.mp hb
  exact map_eq_ok.mpr ⟨a, h a ha, hb⟩

theorem Below.mapM {f g : α → Except ε β} (xs : List α) (h : ∀ x, Below (f x) (g x)) :
    Below (xs.mapM f) (xs.mapM g) := by
  induction xs with
  | nil => exact .refl _
  | cons x xs ih =>
    rw [List.mapM_cons, List.mapM_cons]
    exact (h x).bind fun y => ih.bind fun ys => .refl _

end Below

def ResolvesAs (resolve resolve' : Resolver) : Prop :=
  ∀ refid kindref, Below (resolve refid kindref) (resolve' refid kindref)

variable {resolve resolve' : Resolver}

theorem below_renderRef (h : ResolvesAs resolve resolve') (e : Element) :
    Below (renderRef (some resolve) e) (renderRef (some resolve') e) := by
  unfold renderRef
  split
  · exact .refl _
  · refine (Below.refl _).bind fun refid => (Below.refl _).bind fun kindref => ?_
    exact (h refid kindref).bind fun target => .refl _

namespace Renderer

mutual

theorem below_render (h : ResolvesAs resolve resolve') :
    ∀ (allowed : Option (List Markup)) (e : Element),
      Below (render ⟨some resolve, allowed⟩ e) (render ⟨some resolve', allowed⟩ e)
  | allowed, .mk name attributes text children tail => by
    rw [render, render]
    cases Markup.ofTag? name with
    | none => exact .refl _
    | some m =>
      have hallows : allows ⟨some resolve', allowed⟩ m = allows ⟨some resolve, allowed⟩ m := rfl
      dsimp only
      rw [hallows]
      split
      · exact .refl _
      · cases m with
        | ref => exact below_renderRef h _
        | programListing =>
          refine (Below.refl _).bind fun language => ?_
          exact (below_renderAll h _ children).bind fun inside => .refl _
        | _ => exact (below_renderAll h allowed children).bind fun inside => .refl _

theorem below_renderAll (h : ResolvesAs resolve resolve') :
    ∀ (allowed : Option (List Markup)) (es : List Element),
      Below (renderAll ⟨some resolve, allowed⟩ es) (renderAll ⟨some resolve', allowed⟩ es)
  | allowed, [] => by
    rw [renderAll, renderAll]
    exact .refl _
  | allowed, e :: es => by
    rw [renderAll, renderAll]
    refine (below_render h allowed e).bind fun first => ?_
    exact (below_renderAll h allowed es).bind fun rest => .refl _

end

end Renderer

namespace Description

variable {parameters : List Parameter}

mutual

theorem below_ofParagraph (h : ResolvesAs resolve resolve') :
    ∀ e : Element, Below (ofParagraph ⟨some resolve, parameters⟩ e)
      (ofParagraph ⟨some resolve', parameters⟩ e)
  | .mk name attributes own children tail => by
    rw [ofParagraph, ofParagraph]
    split
    · exact (below_composeChildren h _ children).map _
    · exact .refl _

theorem below_composeChildren (h : ResolvesAs resolve resolve') :
    ∀ (before : List Description) (es : List Element),
      Below (composeChildren ⟨some resolve, parameters⟩ before es)
        (composeChildren ⟨some resolve', parameters⟩ before es)
  | before, [] => by
    rw [composeChildren, composeChildren]
    exact .refl _
  | before, e :: es => by
    rw [composeChildren, composeChildren]
    cases Block.ofTag? e.name with
    | none =>
      exact (Renderer.below_render h none e).bind fun text => below_composeChildren h _ es
    | some block =>
      cases block with
      | paragraph =>
        exact (below_ofParagraph h e).bind fun block => below_composeChildren h _ es
      | simpleSection =>
        exact (below_ofSection h e).bind fun block => below_composeChildren h _ es
      | parameterList =>
        exact (below_ofParameterList h e).bind fun block => below_composeChildren h _ es
      | itemizedList =>
        exact (below_ofItemizedList h e).bind fun block => below_composeChildren h _ es

theorem below_ofSection (h : ResolvesAs resolve resolve') :
    ∀ e : Element, Below (ofSection ⟨some resolve, parameters⟩ e)
      (ofSection ⟨some resolve', parameters⟩ e)
  | .mk name attributes own children tail => by
    rw [ofSection, ofSection]
    split
    · exact .refl _
    · refine (Below.refl _).bind fun kind => ?_
      exact (below_paragraphsAmong h children).bind fun body => .refl _

theorem below_ofParameterList (h : ResolvesAs resolve resolve') :
    ∀ e : Element, Below (ofParameterList ⟨some resolve, parameters⟩ e)
      (ofParameterList ⟨some resolve', parameters⟩ e)
  | .mk name attributes own children tail => by
    rw [ofParameterList, ofParameterList]
    split
    · exact .refl _
    · exact (below_parametersAmong h children).map _

theorem below_ofItemizedList (h : ResolvesAs resolve resolve') :
    ∀ e : Element, Below (ofItemizedList ⟨some resolve, parameters⟩ e)
      (ofItemizedList ⟨some resolve', parameters⟩ e)
  | .mk name attributes own children tail => by
    rw [ofItemizedList, ofItemizedList]
    exact (below_listItems h children).map _

theorem below_paragraphsAmong (h : ResolvesAs resolve resolve') :
    ∀ es : List Element, Below (paragraphsAmong ⟨some resolve, parameters⟩ es)
      (paragraphsAmong ⟨some resolve', parameters⟩ es)
  | [] => by
    rw [paragraphsAmong, paragraphsAmong]
    exact .refl _
  | e :: es => by
    rw [paragraphsAmong, paragraphsAmong]
    split
    · refine (below_ofParagraph h e).bind fun first => ?_
      exact (below_paragraphsAmong h es).bind fun rest => .refl _
    · exact below_paragraphsAmong h es

theorem below_parametersAmong (h : ResolvesAs resolve resolve') :
    ∀ es : List Element, Below (parametersAmong ⟨some resolve, parameters⟩ es)
      (parametersAmong ⟨some resolve', parameters⟩ es)
  | [] => by
    rw [parametersAmong, parametersAmong]
    exact .refl _
  | .mk name attributes own children tail :: es => by
    rw [parametersAmong, parametersAmong]
    split
    · refine (Below.refl _).bind fun documented => ?_
      refine (below_parameterParagraphs h children).bind fun body => ?_
      exact (below_parametersAmong h es).bind fun rest => .refl _
    · exact below_parametersAmong h es

theorem below_parameterParagraphs (h : ResolvesAs resolve resolve') :
    ∀ es : List Element, Below (parameterParagraphs ⟨some resolve, parameters⟩ es)
      (parameterParagraphs ⟨some resolve', parameters⟩ es)
  | [] => by
    rw [parameterParagraphs, parameterParagraphs]
    exact .refl _
  | .mk name attributes own children tail :: es => by
    rw [parameterParagraphs, parameterParagraphs]
    split
    · refine (below_paragraphsAmong h children).bind fun first => ?_
      exact (below_parameterParagraphs h es).bind fun rest => .refl _
    · exact below_parameterParagraphs h es

theorem below_listItems (h : ResolvesAs resolve resolve') :
    ∀ es : List Element, Below (listItems ⟨some resolve, parameters⟩ es)
      (listItems ⟨some resolve', parameters⟩ es)
  | [] => by
    rw [listItems, listItems]
    exact .refl _
  | .mk name attributes own children tail :: es => by
    rw [listItems, listItems]
    split
    · cases children.find? fun c => c.name != "para" with
      | some other => exact .refl _
      | none =>
        refine (below_paragraphsAmong h children).bind fun body => ?_
        exact (below_listItems h es).bind fun rest => .refl _
    · exact .refl _

end

theorem below_ofDeclaration (h : ResolvesAs resolve resolve') (e : Element) :
    Below (ofDeclaration ⟨some resolve, parameters⟩ e)
      (ofDeclaration ⟨some resolve', parameters⟩ e) := by
  unfold ofDeclaration
  split
  · exact .refl _
  · exact ((Below.mapM _ (below_ofParagraph h)).map together).map some

end Description

namespace Symbol

theorem below_readFunction (h : ResolvesAs resolve resolve') (e : Element) :
    Below (readFunction resolve e) (readFunction resolve' e) := by
  refine (Below.refl _).bind fun name => (Below.refl _).bind fun type => ?_
  refine (Below.refl _).bind fun parameters => ?_
  exact (Description.below_ofDeclaration h e).bind fun description => .refl _

theorem below_readDefine (h : ResolvesAs resolve resolve') (e : Element) :
    Below (readDefine resolve e) (readDefine resolve' e) := by
  refine (Below.refl _).bind fun name => (Below.refl _).bind fun parameters => ?_
  refine (Below.refl _).bind fun value => ?_
  exact (Description.below_ofDeclaration h e).bind fun description => .refl _

theorem below_readEnumValue (h : ResolvesAs resolve resolve') (e : Element) :
    Below (readEnumValue resolve e) (readEnumValue resolve' e) := by
  refine (Below.refl _).bind fun name => (Below.refl _).bind fun initializer => ?_
  exact (Description.below_ofDeclaration h e).bind fun description => .refl _

theorem below_readEnumeration (h : ResolvesAs resolve resolve') (e : Element) :
    Below (readEnumeration resolve e) (readEnumeration resolve' e) := by
  refine (Below.mapM _ (below_readEnumValue h)).bind fun values => ?_
  refine (Below.refl _).bind fun name => ?_
  exact (Description.below_ofDeclaration h e).bind fun description => .refl _

theorem below_readVariable (h : ResolvesAs resolve resolve') (e : Element) :
    Below (readVariable resolve e) (readVariable resolve' e) := by
  refine (Below.refl _).bind fun name => (Below.refl _).bind fun type => ?_
  refine (Below.refl _).bind fun qualified => (Below.refl _).bind fun initializer => ?_
  exact (Description.below_ofDeclaration h e).bind fun description => .refl _

theorem below_ofMember (h : ResolvesAs resolve resolve') (e : Element) :
    Below (ofMember resolve e) (ofMember resolve' e) := by
  refine (Below.refl _).bind fun kind => ?_
  split
  · exact (below_readFunction h e).map _
  · exact (below_readDefine h e).map _
  · exact (below_readEnumeration h e).map _
  · exact (below_readVariable h e).map _
  · exact .refl _

end Symbol

namespace Lookup

variable {α β : Type}

def Below (x y : Lookup α) : Prop :=
  ∀ cache a cache', outcome x cache = (.ok a, cache') → outcome y cache = (.ok a, cache')

theorem Below.refl (x : Lookup α) : Below x x :=
  fun _ _ _ h => h

theorem below_ofExcept {x y : Except Error α} (h : SymbolDocs.Below x y) :
    Below (MonadExcept.ofExcept x) (MonadExcept.ofExcept y) := by
  intro cache a cache' ha
  rw [outcome_ofExcept, Prod.mk.injEq] at *
  exact ⟨h a ha.1, ha.2⟩

theorem Below.bind {x y : Lookup α} {f g : α → Lookup β} (h : Below x y)
    (hf : ∀ a, Below (f a) (g a)) : Below (x >>= f) (y >>= g) := by
  intro cache b cache' hb
  rcases hx : outcome x cache with ⟨e | a, cache''⟩
  · rw [outcome_bind_error hx] at hb
    cases (Prod.mk.inj hb).1
  · rw [outcome_bind_ok hx] at hb
    rw [outcome_bind_ok (h cache a cache'' hx)]
    exact hf a cache'' b cache' hb

theorem Below.mapM {f g : α → Lookup β} (xs : List α) (h : ∀ x, Below (f x) (g x)) :
    Below (xs.mapM f) (xs.mapM g) := by
  induction xs with
  | nil => exact .refl _
  | cons x xs ih =>
    rw [List.mapM_cons, List.mapM_cons]
    exact (h x).bind fun y => ih.bind fun ys => .refl _

theorem below_ofCompound (h : ResolvesAs resolve resolve') (load : String → Lookup Element)
    (depth : Nat) (document : Element) :
    Below (Symbol.ofCompound resolve load depth document)
      (Symbol.ofCompound resolve' load depth document) := by
  induction depth generalizing document with
  | zero => exact .refl _
  | succ depth ih =>
    rw [Symbol.ofCompound, Symbol.ofCompound]
    refine (Below.refl _).bind fun e => (Below.refl _).bind fun head => ?_
    refine (Below.mapM _ fun child => ?_).bind fun inner => ?_
    · refine (Below.refl _).bind fun refid => ?_
      exact (Below.refl _).bind fun next => ih next
    · refine (below_ofExcept (.mapM _ (Symbol.below_ofMember h))).bind fun members => ?_
      refine (below_ofExcept (Description.below_ofDeclaration h e)).bind fun description => ?_
      exact .refl _

end Lookup

end SymbolDocs
