import SymbolDocs.Proofs.Markup.Translation
import SymbolDocs.Symbol.OfDeclaration

namespace SymbolDocs

open Xml (Element)

theorem readChild?_eq_ok_iff {α : Type} {e : Element} {tag : String} {read : Element → Except Error α}
    {o : Option α} : readChild? e tag read = .ok o ↔ (e.child? tag).map read = o.map .ok := by
  unfold readChild?
  cases e.child? tag with
  | none => cases o <;> simp
  | some child =>
    rw [map_eq_ok, Option.map_some]
    cases o <;> simp

theorem exists_of_readChild?_error {α : Type} {e : Element} {tag : String}
    {read : Element → Except Error α} {error : Error} (h : readChild? e tag read = .error error) :
    ∃ child, read child = .error error := by
  unfold readChild? at h
  split at h
  · cases h
  · next child _ => exact ⟨child, map_eq_error.mp h⟩

structure IsMacroParameter (param : Element) (p : Parameter) : Prop where
  name : ∃ defname s, param.child? "defname" = some defname ∧ simpleText defname = .ok s ∧
    p.name = some s
  type : (param.child? "type").map (fun e => (simpleText e).map normalizeType) = p.type.map .ok

structure IsFunctionParameter (param : Element) (p : Parameter) : Prop where
  type : ∃ e s, param.child? "type" = some e ∧ simpleText e = .ok s ∧
    p.type = some (normalizeType s)
  name : (param.child? "declname").map simpleText = p.name.map .ok

theorem macroParameter_eq_ok_iff {define : String} {param : Element} {p : Parameter} :
    macroParameter define param = .ok p ↔ IsMacroParameter param p := by
  obtain ⟨type, name⟩ := p
  unfold macroParameter
  constructor
  · intro h
    split at h
    · cases h
    · next defname hdefname =>
      obtain ⟨_, htype, h⟩ := bind_eq_ok.mp h
      obtain ⟨s, hs, ⟨⟩⟩ := bind_eq_ok.mp h
      exact ⟨⟨defname, s, hdefname, hs, rfl⟩, readChild?_eq_ok_iff.mp htype⟩
  · rintro ⟨⟨defname, s, hdefname, hs, rfl⟩, htype⟩
    rw [hdefname]
    exact bind_eq_ok.mpr ⟨type, readChild?_eq_ok_iff.mpr htype, bind_eq_ok.mpr ⟨s, hs, rfl⟩⟩

theorem macroParameter_eq_missing_iff {define n : String} {param : Element} :
    macroParameter define param = .error (.missingParameterName n) ↔
      param.child? "defname" = none ∧ n = define := by
  unfold macroParameter
  cases param.child? "defname" with
  | none => simp [eq_comm]
  | some defname =>
    -- A name or a type that is there but cannot be read is blamed on its markup.
    refine ⟨fun h => ?_, fun h => nomatch h.1⟩
    have hblamed : Error.BlamesMarkup (.missingParameterName n) := by
      rcases bind_eq_error.mp h with h | ⟨type, -, h⟩
      · obtain ⟨child, h⟩ := exists_of_readChild?_error h
        exact blamesMarkup_of_simpleText (map_eq_error.mp h)
      · rcases bind_eq_error.mp h with h | ⟨name, -, h⟩
        · exact blamesMarkup_of_simpleText h
        · cases h
    exact absurd hblamed id

def functionParameter (function : String) (param : Element) : Except Error Parameter := do
  match ← readChild? param "type" typeText with
  | none => .error (.missingParameterType function)
  | some type => do
    let name ← readChild? param "declname" simpleText
    .ok ⟨some type, name⟩

theorem functionParameters_eq_mapM (function : String) (e : Element) :
    functionParameters function e = (e.childrenNamed "param").mapM (functionParameter function) :=
  rfl

theorem functionParameter_eq_ok_iff {function : String} {param : Element} {p : Parameter} :
    functionParameter function param = .ok p ↔ IsFunctionParameter param p := by
  obtain ⟨type, name⟩ := p
  unfold functionParameter
  constructor
  · intro h
    obtain ⟨o, htype, h⟩ := bind_eq_ok.mp h
    split at h
    · cases h
    · next t =>
      obtain ⟨_, hname, ⟨⟩⟩ := bind_eq_ok.mp h
      obtain ⟨e, he, hread⟩ := Option.map_eq_some_iff.mp (readChild?_eq_ok_iff.mp htype)
      obtain ⟨s, hs, rfl⟩ := map_eq_ok.mp hread
      exact ⟨⟨e, s, he, hs, rfl⟩, readChild?_eq_ok_iff.mp hname⟩
  · rintro ⟨⟨e, s, he, hs, rfl⟩, hname⟩
    have htype : readChild? param "type" typeText = .ok (some (normalizeType s)) := by
      rw [readChild?_eq_ok_iff, he]
      exact congrArg some (map_eq_ok.mpr ⟨s, hs, rfl⟩)
    refine bind_eq_ok.mpr ⟨_, htype, bind_eq_ok.mpr ⟨name, readChild?_eq_ok_iff.mpr hname, rfl⟩⟩

theorem functionParameter_of_untyped {param : Element} (h : param.child? "type" = none)
    (function : String) :
    functionParameter function param = .error (.missingParameterType function) := by
  rw [functionParameter, readChild?, h]
  rfl

theorem macroParameters_cases (define : String) (e : Element) :
    (e.childrenNamed "param" = [] ∧ macroParameters define e = .ok none) ∨
      (∃ param, e.childrenNamed "param" = [param] ∧ param.child? "defname" = none ∧
        macroParameters define e = .ok (some [])) ∨
      e.childrenNamed "param" ≠ [] ∧
        (¬∃ param, e.childrenNamed "param" = [param] ∧ param.child? "defname" = none) ∧
        macroParameters define e =
          ((e.childrenNamed "param").mapM (macroParameter define)).map some := by
  unfold macroParameters
  rcases e.childrenNamed "param" with _ | ⟨param, _ | ⟨param', params⟩⟩
  · exact .inl ⟨rfl, rfl⟩
  · cases hdefname : param.child? "defname" with
    | none => exact .inr (.inl ⟨param, rfl, hdefname, by simp [hdefname]⟩)
    | some defname =>
      refine .inr (.inr ⟨List.cons_ne_nil _ _, ?_, ?_⟩)
      · rintro ⟨_, ⟨⟩, hnone⟩
        cases hnone.symm.trans hdefname
      · simp only [hdefname, Option.isNone_some, Bool.false_eq_true, ↓reduceIte]
        cases hparam : macroParameter define param <;> rw [List.mapM_cons, hparam] <;> rfl
  · refine .inr (.inr ⟨List.cons_ne_nil _ _, ?_, rfl⟩)
    rintro ⟨_, ⟨⟩, -⟩

theorem shape_of_macroParameters {define : String} {e : Element} {o : Option (List Parameter)}
    (h : macroParameters define e = .ok o) :
    (o = none ↔ (e.childrenNamed "param").length = 0) ∧
      (o = some [] ↔ ∃ param, e.childrenNamed "param" = [param] ∧
        param.child? "defname" = none) ∧
      (o ≠ none → o ≠ some [] → ∃ ps, o = some ps ∧
        ps.length = (e.childrenNamed "param").length ∧
        List.Forall₂ IsMacroParameter (e.childrenNamed "param") ps) := by
  rcases macroParameters_cases define e with
    ⟨hparams, heq⟩ | ⟨param, hparams, hdefname, heq⟩ | ⟨hparams, hnamed, heq⟩
  · obtain rfl := Except.ok.inj (heq.symm.trans h)
    simp [hparams]
  · obtain rfl := Except.ok.inj (heq.symm.trans h)
    simp [hparams, hdefname]
  · obtain ⟨ps, hps, rfl⟩ := map_eq_ok.mp (heq.symm.trans h)
    have hall : List.Forall₂ IsMacroParameter (e.childrenNamed "param") ps :=
      (mapM_eq_ok_iff_forall₂.mp hps).imp fun _ _ => macroParameter_eq_ok_iff.mp
    have hne : ps ≠ [] := by
      rintro rfl
      exact hparams (List.forall₂_nil_right_iff.mp hall)
    refine ⟨?_, ?_, fun _ _ => ⟨ps, rfl, hall.length_eq.symm, hall⟩⟩
    · simp [hparams]
    · rw [Option.some_inj]
      exact iff_of_false hne hnamed

theorem macroParameters_eq_missing_iff {define n : String} {e : Element}
    (h : 2 ≤ (e.childrenNamed "param").length) :
    macroParameters define e = .error (.missingParameterName n) ↔ n = define ∧
      ∃ before param after, e.childrenNamed "param" = before ++ param :: after ∧
        param.child? "defname" = none ∧ ∀ p ∈ before, ∃ q, IsMacroParameter p q := by
  rcases macroParameters_cases define e with
    ⟨hparams, -⟩ | ⟨param, hparams, -⟩ | ⟨-, -, heq⟩
  · simp [hparams] at h
  · simp [hparams] at h
  · rw [heq, map_eq_error, mapM_eq_error_iff]
    simp only [macroParameter_eq_missing_iff, macroParameter_eq_ok_iff]
    constructor
    · rintro ⟨before, param, after, hparams, ⟨hdefname, rfl⟩, hbefore⟩
      exact ⟨rfl, before, param, after, hparams, hdefname, hbefore⟩
    · rintro ⟨rfl, before, param, after, hparams, hdefname, hbefore⟩
      exact ⟨before, param, after, hparams, ⟨hdefname, rfl⟩, hbefore⟩

theorem functionParameters_of_untyped {e param : Element} {before after : List Element}
    (hparams : e.childrenNamed "param" = before ++ param :: after)
    (hbefore : ∀ p ∈ before, ∃ q, IsFunctionParameter p q) (htype : param.child? "type" = none)
    (function : String) :
    functionParameters function e = .error (.missingParameterType function) := by
  rw [functionParameters_eq_mapM, hparams]
  refine mapM_of_error ?_ (functionParameter_of_untyped htype function) after
  intro p hp
  obtain ⟨q, hq⟩ := hbefore p hp
  exact ⟨q, functionParameter_eq_ok_iff.mpr hq⟩

namespace Symbol

variable {resolve : Resolver} {e : Element}

theorem readDefine_of_ofMember {m : Define} (h : ofMember resolve e = .ok (.define m)) :
    readDefine resolve e = .ok m := by
  obtain ⟨kind, -, h⟩ := bind_eq_ok.mp h
  split at h
  case h_2 =>
    obtain ⟨m', hm, ⟨⟩⟩ := map_eq_ok.mp h
    exact hm
  case h_5 => cases h
  all_goals
    obtain ⟨_, -, ⟨⟩⟩ := map_eq_ok.mp h

theorem readFunction_of_ofMember {f : Function} (h : ofMember resolve e = .ok (.function f)) :
    readFunction resolve e = .ok f := by
  obtain ⟨kind, -, h⟩ := bind_eq_ok.mp h
  split at h
  case h_1 =>
    obtain ⟨f', hf, ⟨⟩⟩ := map_eq_ok.mp h
    exact hf
  case h_5 => cases h
  all_goals
    obtain ⟨_, -, ⟨⟩⟩ := map_eq_ok.mp h

theorem ofMember_function (h : e.attr? "kind" = some "function") :
    ofMember resolve e = (readFunction resolve e).map .function := by
  rw [ofMember, (requiredAttr_eq_ok_iff e e.name "kind" "function").mpr h]
  rfl

theorem parameterLists_complete (resolve : Resolver) (e : Element) :
    (∀ m, ofMember resolve e = .ok (.define m) →
      (m.parameters = none ↔ (e.childrenNamed "param").length = 0) ∧
      (m.parameters = some [] ↔ ∃ param, e.childrenNamed "param" = [param] ∧
        param.child? "defname" = none) ∧
      (m.parameters ≠ none → m.parameters ≠ some [] → ∃ ps, m.parameters = some ps ∧
        ps.length = (e.childrenNamed "param").length ∧
        List.Forall₂ IsMacroParameter (e.childrenNamed "param") ps)) ∧
    (∀ define n, 2 ≤ (e.childrenNamed "param").length →
      (macroParameters define e = .error (.missingParameterName n) ↔ n = define ∧
        ∃ before param after, e.childrenNamed "param" = before ++ param :: after ∧
          param.child? "defname" = none ∧ ∀ p ∈ before, ∃ q, IsMacroParameter p q)) ∧
    (∀ f, ofMember resolve e = .ok (.function f) →
      f.parameters.length = (e.childrenNamed "param").length ∧
        List.Forall₂ IsFunctionParameter (e.childrenNamed "param") f.parameters) ∧
    ∀ name type before param after, e.attr? "kind" = some "function" →
      requiredName e "name" = .ok name → requiredType e = .ok type →
      e.childrenNamed "param" = before ++ param :: after →
      (∀ p ∈ before, ∃ q, IsFunctionParameter p q) → param.child? "type" = none →
      ofMember resolve e = .error (.missingParameterType name) := by
  refine ⟨?_, fun define n => macroParameters_eq_missing_iff, ?_, ?_⟩
  · intro m hm
    obtain ⟨name, -, h⟩ := bind_eq_ok.mp (readDefine_of_ofMember hm)
    obtain ⟨parameters, hparameters, h⟩ := bind_eq_ok.mp h
    obtain ⟨value, -, h⟩ := bind_eq_ok.mp h
    obtain ⟨description, -, h⟩ := bind_eq_ok.mp h
    obtain ⟨location, -, ⟨⟩⟩ := bind_eq_ok.mp h
    exact shape_of_macroParameters hparameters
  · intro f hf
    obtain ⟨name, -, h⟩ := bind_eq_ok.mp (readFunction_of_ofMember hf)
    obtain ⟨type, -, h⟩ := bind_eq_ok.mp h
    obtain ⟨parameters, hparameters, h⟩ := bind_eq_ok.mp h
    obtain ⟨description, -, h⟩ := bind_eq_ok.mp h
    obtain ⟨location, -, ⟨⟩⟩ := bind_eq_ok.mp h
    have hall : List.Forall₂ IsFunctionParameter (e.childrenNamed "param") parameters :=
      (mapM_eq_ok_iff_forall₂.mp hparameters).imp fun _ _ => functionParameter_eq_ok_iff.mp
    exact ⟨hall.length_eq.symm, hall⟩
  · intro name type before param after hkind hname htype hparams hbefore huntyped
    rw [ofMember_function hkind, readFunction, hname]
    refine map_eq_error.mpr ?_
    refine bind_eq_error.mpr (.inr ⟨name, rfl, ?_⟩)
    refine bind_eq_error.mpr (.inr ⟨type, htype, ?_⟩)
    exact bind_eq_error.mpr (.inl (functionParameters_of_untyped hparams hbefore huntyped name))

def fieldMarkup (tag text : String) : Element :=
  .mk tag [] text [] ""

def paramMarkup (fields : List Element) : Element :=
  .mk "param" [] "" fields ""

def memberMarkup (kind : String) (fields : List Element) : Element :=
  .mk "memberdef" [("kind", kind)] ""
    (fields ++ [.mk "location" [("file", "a.h"), ("line", "1"), ("column", "1")] "" [] ""]) ""

theorem parameterLists_complete_two :
    let resolve : Resolver := fun refid kindref => .error (.unresolvedReference kindref refid)
    let named := paramMarkup [fieldMarkup "defname" " a "]
    let typed := paramMarkup [fieldMarkup "defname" "b", fieldMarkup "type" "T &"]
    let unnamed := paramMarkup [fieldMarkup "type" "T"]
    let anonymous := paramMarkup [fieldMarkup "type" "vector< int >"]
    let untyped := paramMarkup [fieldMarkup "declname" "x"]
    let header := [fieldMarkup "type" "void", fieldMarkup "name" "f"]
    (∃ m ps, ofMember resolve (memberMarkup "define" (header ++ [named, typed])) = .ok (.define m) ∧
      m.parameters = some ps ∧ ps = [⟨none, some "a"⟩, ⟨some "T&", some "b"⟩] ∧
      List.Forall₂ IsMacroParameter [named, typed] ps) ∧
    macroParameters "f" (memberMarkup "define" (header ++ [named, unnamed])) =
      .error (.missingParameterName "f") ∧
    (∃ f, ofMember resolve (memberMarkup "function" (header ++ [anonymous])) = .ok (.function f) ∧
      f.parameters = [⟨some "vector<int>", none⟩] ∧
      List.Forall₂ IsFunctionParameter [anonymous] f.parameters) ∧
    ofMember resolve (memberMarkup "function" (header ++ [anonymous, untyped])) =
      .error (.missingParameterType "f") := by
  intro resolve named typed unnamed anonymous untyped header
  refine ⟨?_, ?_, ?_, ?_⟩
  · obtain ⟨m, hm, hps⟩ : ∃ m,
        ofMember resolve (memberMarkup "define" (header ++ [named, typed])) = .ok (.define m) ∧
          m.parameters = some [⟨none, some "a"⟩, ⟨some "T&", some "b"⟩] := ⟨_, rfl, by decide +kernel⟩
    obtain ⟨ps, hps', -, hall⟩ :=
      ((parameterLists_complete resolve _).1 m hm).2.2 (by simp [hps]) (by simp [hps])
    exact ⟨m, ps, hm, hps', Option.some.inj (hps'.symm.trans hps), hall⟩
  · refine ((parameterLists_complete resolve _).2.1 "f" "f" (by decide)).mpr
      ⟨rfl, [named], unnamed, [], rfl, rfl, List.forall_mem_singleton.mpr ⟨⟨none, some "a"⟩, ?_⟩⟩
    exact ⟨⟨_, _, rfl, rfl, rfl⟩, rfl⟩
  · obtain ⟨f, hf, hps⟩ : ∃ f,
        ofMember resolve (memberMarkup "function" (header ++ [anonymous])) = .ok (.function f) ∧
          f.parameters = [⟨some "vector<int>", none⟩] := ⟨_, rfl, by decide +kernel⟩
    exact ⟨f, hf, hps, ((parameterLists_complete resolve _).2.2.1 f hf).2⟩
  · refine (parameterLists_complete resolve _).2.2.2 "f" "void" [anonymous] untyped [] rfl rfl rfl rfl
      (List.forall_mem_singleton.mpr ⟨⟨some "vector<int>", none⟩, ?_⟩) rfl
    exact ⟨⟨_, _, rfl, rfl, rfl⟩, rfl⟩

end Symbol

end SymbolDocs
