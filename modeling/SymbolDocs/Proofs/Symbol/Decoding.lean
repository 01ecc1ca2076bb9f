import SymbolDocs.Proofs.Json.Layout
import SymbolDocs.Symbol.Json

namespace SymbolDocs

namespace Json

def lookup? (key : String) :
    (fields : List (String × Json)) → Option { v : Json // sizeOf v < sizeOf fields }
  | [] => none
  | (k, v) :: fields =>
    if k = key then some ⟨v, by simp; omega⟩
    else (lookup? key fields).map fun ⟨v, h⟩ => ⟨v, by simp; omega⟩

def field? (key : String) : (j : Json) → Option { v : Json // sizeOf v < sizeOf j }
  | object fields => (lookup? key fields).map fun ⟨v, h⟩ => ⟨v, by simp; omega⟩
  | _ => none

def items? : (j : Json) → Option { items : List Json // sizeOf items < sizeOf j }
  | array items => some ⟨items, by simp⟩
  | _ => none

def string? : Json → Option String
  | string s => some s
  | _ => none

def number? : Json → Option Nat
  | number n => some n
  | _ => none

section Readers

variable {α : Type} (read : Json → Option α)

def read? (key : String) (j : Json) : Option α :=
  (j.field? key).bind fun v => read v.1

def list? (j : Json) : Option (List α) :=
  j.items?.bind fun items => items.1.mapM read

def optional? : Json → Option (Option α)
  | null => some none
  | j => (read j).map some

variable {read} {f : α → Json}

theorem list?_map (h : ∀ a, read (f a) = some a) (as : List α) :
    list? read (.array (as.map f)) = some as := by
  change (as.map f).mapM read = some as
  induction as with
  | nil => rfl
  | cons a as ih =>
    rw [List.map_cons, List.mapM_cons, h, ih]
    rfl

theorem optional?_ofOption (h : ∀ a, read (f a) = some a) (hnull : ∀ a, f a ≠ .null)
    (a : Option α) : optional? read (.ofOption f a) = some a := by
  cases a with
  | none => rfl
  | some a =>
    rw [Json.ofOption, optional?, h, Option.map_some]
    exact hnull a

theorem optional?_optionalString (s : Option String) :
    optional? string? (.optionalString s) = some s := by
  have hread (s : String) : string? (.string s) = some s := rfl
  exact optional?_ofOption hread (fun _ => nofun) s

end Readers

end Json

open Json (read? list? optional? string? number?)

namespace Description

mutual

def ofJson? (j : Json) : Option Description := do
  match ← j.read? string? "kind" with
  | "text" => return .text (← j.read? string? "contents")
  | "paragraph" =>
    let ⟨array, _⟩ ← j.field? "contents"
    let ⟨contents, _⟩ ← array.items?
    return .paragraph (← ofJsonAll? contents)
  | "admonition" =>
    let ⟨contents, _⟩ ← j.field? "contents"
    return .admonition (← j.read? string? "style") (← j.read? string? "title")
      (← ofJson? contents)
  | "parameter" =>
    let ⟨description, _⟩ ← j.field? "description"
    return .parameter (← j.read? string? "name") (← j.read? (optional? string?) "type")
      (← j.read? (optional? fun d => d.string?.bind Direction.ofName?) "direction")
      (← ofJson? description)
  | "list" =>
    let ⟨array, _⟩ ← j.field? "contents"
    let ⟨contents, _⟩ ← array.items?
    return .list (← j.read? (optional? string?) "title") (← ofJsonAll? contents)
  | "return" =>
    let ⟨description, _⟩ ← j.field? "description"
    return .returns (← j.read? string? "title") (← ofJson? description)
  | _ => none
termination_by sizeOf j

def ofJsonAll? : List Json → Option (List Description)
  | [] => some []
  | j :: js => do return (← ofJson? j) :: (← ofJsonAll? js)
termination_by js => sizeOf js

end

theorem optional?_direction (direction : Option Direction) :
    optional? (fun d => d.string?.bind Direction.ofName?)
      (.ofOption (fun d => .string d.name) direction) = some direction :=
  Json.optional?_ofOption (fun d => by cases d <;> rfl) nofun direction

mutual

theorem ofJson?_toJson (d : Description) : ofJson? d.toJson = some d := by
  match d with
  | .text contents =>
    rw [toJson, ofJson?]
    rfl
  | .paragraph contents =>
    rw [toJson, ofJson?]
    change (ofJsonAll? (toJsonAll contents)).bind _ = _
    rw [ofJsonAll?_toJsonAll contents]
    rfl
  | .admonition style title contents =>
    rw [toJson, ofJson?]
    change (ofJson? contents.toJson).bind _ = _
    rw [ofJson?_toJson contents]
    rfl
  | .parameter name type direction description =>
    rw [toJson, ofJson?]
    change (optional? string? (.optionalString type)).bind _ = _
    rw [Json.optional?_optionalString]
    change (optional? _ (.ofOption _ direction)).bind _ = _
    rw [optional?_direction]
    change (ofJson? description.toJson).bind _ = _
    rw [ofJson?_toJson description]
    rfl
  | .list title contents =>
    rw [toJson, ofJson?]
    change (optional? string? (.optionalString title)).bind _ = _
    rw [Json.optional?_optionalString]
    change (ofJsonAll? (toJsonAll contents)).bind _ = _
    rw [ofJsonAll?_toJsonAll contents]
    rfl
  | .returns title description =>
    rw [toJson, ofJson?]
    change (ofJson? description.toJson).bind _ = _
    rw [ofJson?_toJson description]
    rfl

theorem ofJsonAll?_toJsonAll (ds : List Description) : ofJsonAll? (toJsonAll ds) = some ds := by
  match ds with
  | [] => rw [toJsonAll, ofJsonAll?]
  | d :: ds =>
    rw [toJsonAll, ofJsonAll?, ofJson?_toJson d, ofJsonAll?_toJsonAll ds]
    rfl

end

theorem toJson_ne_null (d : Description) : d.toJson ≠ .null := by
  cases d <;> rw [toJson] <;> nofun

theorem optional?_toJson (d : Option Description) :
    optional? ofJson? (.ofOption toJson d) = some d :=
  Json.optional?_ofOption ofJson?_toJson toJson_ne_null d

end Description

def Location.ofJson? (j : Json) : Option Location := do
  return ⟨← j.read? string? "file", ← j.read? number? "line", ← j.read? number? "column"⟩

def Parameter.ofJson? (j : Json) : Option Parameter := do
  return ⟨← j.read? (optional? string?) "type", ← j.read? (optional? string?) "name"⟩

def EnumValue.ofJson? (j : Json) : Option EnumValue := do
  return ⟨← j.read? string? "name", ← j.read? (optional? string?) "initializer",
    ← j.read? (optional? Description.ofJson?) "description"⟩

theorem Location.ofJson?_toJson (l : Location) : Location.ofJson? l.toJson = some l := rfl

theorem Parameter.ofJson?_toJson (p : Parameter) : Parameter.ofJson? p.toJson = some p := by
  change (optional? string? (.optionalString p.type)).bind _ = _
  rw [Json.optional?_optionalString]
  change (optional? string? (.optionalString p.name)).bind _ = _
  rw [Json.optional?_optionalString]
  rfl

theorem EnumValue.ofJson?_toJson (v : EnumValue) : EnumValue.ofJson? v.toJson = some v := by
  change (optional? string? (.optionalString v.initializer)).bind _ = _
  rw [Json.optional?_optionalString]
  change (optional? Description.ofJson? (.ofOption _ v.description)).bind _ = _
  rw [Description.optional?_toJson]
  rfl

theorem optional?_location (l : Option Location) :
    optional? Location.ofJson? (.ofOption Location.toJson l) = some l :=
  Json.optional?_ofOption Location.ofJson?_toJson (fun _ => nofun) l

theorem optional?_parameters (ps : Option (List Parameter)) :
    optional? (list? Parameter.ofJson?)
      (.ofOption (fun ps => .array (ps.map Parameter.toJson)) ps) = some ps :=
  Json.optional?_ofOption (Json.list?_map Parameter.ofJson?_toJson) (fun _ => nofun) ps

namespace Symbol

theorem ofName?_name (t : CompoundType) : CompoundType.ofName? t.name = some t := by
  cases t <;> rfl

mutual

def ofJson? (j : Json) : Option Symbol := do
  match ← j.read? string? "kind" with
  | "function" =>
    return .function ⟨← j.read? string? "type", ← j.read? string? "name",
      ← j.read? (list? Parameter.ofJson?) "parameters",
      ← j.read? (optional? Description.ofJson?) "description",
      ← j.read? Location.ofJson? "location"⟩
  | "define" =>
    return .define ⟨← j.read? string? "name",
      ← j.read? (optional? (list? Parameter.ofJson?)) "parameters",
      ← j.read? (optional? string?) "value",
      ← j.read? (optional? Description.ofJson?) "description",
      ← j.read? Location.ofJson? "location"⟩
  | "enum" =>
    return .enum ⟨← j.read? string? "name", ← j.read? (list? EnumValue.ofJson?) "values",
      ← j.read? (optional? Description.ofJson?) "description",
      ← j.read? Location.ofJson? "location"⟩
  | "variable" =>
    return .variable ⟨← j.read? string? "type", ← j.read? string? "name",
      ← j.read? string? "qualified_name", ← j.read? (optional? string?) "initializer",
      ← j.read? (optional? Description.ofJson?) "description",
      ← j.read? Location.ofJson? "location"⟩
  | "compound" =>
    let ⟨array, _⟩ ← j.field? "members"
    let ⟨members, _⟩ ← array.items?
    return .compound ⟨← j.read? (fun t => t.string?.bind CompoundType.ofName?) "type",
      ← j.read? string? "name", ← j.read? string? "title",
      ← j.read? (optional? Description.ofJson?) "description",
      ← j.read? (optional? Location.ofJson?) "location"⟩ (← ofJsonAll? members)
  | _ => none
termination_by sizeOf j

def ofJsonAll? : List Json → Option (List Symbol)
  | [] => some []
  | j :: js => do return (← ofJson? j) :: (← ofJsonAll? js)
termination_by js => sizeOf js

end

mutual

theorem ofJson?_toJson (s : Symbol) : ofJson? s.toJson = some s := by
  match s with
  | .function f =>
    rw [toJson, ofJson?]
    change (list? Parameter.ofJson? (.array (f.parameters.map _))).bind _ = _
    rw [Json.list?_map Parameter.ofJson?_toJson]
    change (optional? Description.ofJson? (.ofOption _ f.description)).bind _ = _
    rw [Description.optional?_toJson]
    rfl
  | .define d =>
    rw [toJson, ofJson?]
    change (optional? (list? Parameter.ofJson?) (.ofOption _ d.parameters)).bind _ = _
    rw [optional?_parameters]
    change (optional? string? (.optionalString d.value)).bind _ = _
    rw [Json.optional?_optionalString]
    change (optional? Description.ofJson? (.ofOption _ d.description)).bind _ = _
    rw [Description.optional?_toJson]
    rfl
  | .enum e =>
    rw [toJson, ofJson?]
    change (list? EnumValue.ofJson? (.array (e.values.map _))).bind _ = _
    rw [Json.list?_map EnumValue.ofJson?_toJson]
    change (optional? Description.ofJson? (.ofOption _ e.description)).bind _ = _
    rw [Description.optional?_toJson]
    rfl
  | .variable v =>
    rw [toJson, ofJson?]
    change (optional? string? (.optionalString v.initializer)).bind _ = _
    rw [Json.optional?_optionalString]
    change (optional? Description.ofJson? (.ofOption _ v.description)).bind _ = _
    rw [Description.optional?_toJson]
    rfl
  | .compound head members =>
    rw [toJson, ofJson?]
    change (CompoundType.ofName? head.type.name).bind _ = _
    rw [ofName?_name]
    change (optional? Description.ofJson? (.ofOption _ head.description)).bind _ = _
    rw [Description.optional?_toJson]
    change (optional? Location.ofJson? (.ofOption _ head.location)).bind _ = _
    rw [optional?_location]
    change (ofJsonAll? (toJsonAll members)).bind _ = _
    rw [ofJsonAll?_toJsonAll members]
    rfl

theorem ofJsonAll?_toJsonAll (ss : List Symbol) : ofJsonAll? (toJsonAll ss) = some ss := by
  match ss with
  | [] => rw [toJsonAll, ofJsonAll?]
  | s :: ss =>
    rw [toJsonAll, ofJsonAll?, ofJson?_toJson s, ofJsonAll?_toJsonAll ss]
    rfl

end

theorem render_injective : Function.Injective fun s : Symbol => s.toJson.render false := by
  intro s t h
  have hread := congrArg (fun text => (Json.parse? text).bind ofJson?) h
  simp only [Json.parse?_render, Option.bind_some, ofJson?_toJson] at hread
  exact Option.some.inj hread

/-- A printed symbol is read back in either layout, the layouts differ in white space outside of
literals only, and different symbols are printed differently: so are a macro without a parameter
list and one whose list is empty. -/
theorem decodes_render :
    (∀ s : Symbol,
      (∀ isPretty, Json.parse? (s.toJson.render isPretty) = some s.toJson) ∧
        ofJson? s.toJson = some s ∧
        String.ofList (Json.withoutBlanks (s.toJson.render true).toList) = s.toJson.render false) ∧
      (Function.Injective fun s : Symbol => s.toJson.render false) ∧
      ∀ d : Define,
        (define { d with parameters := none }).toJson.read? some "parameters" = some .null ∧
          (define { d with parameters := none }).toJson.render false ≠
            (define { d with parameters := some [] }).toJson.render false := by
  refine ⟨fun s => ⟨Json.parse?_render s.toJson, ofJson?_toJson s,
    Json.withoutBlanks_render s.toJson true⟩, render_injective, fun d => ⟨rfl, fun h => ?_⟩⟩
  have hsame := render_injective h
  simp at hsame

end Symbol

end SymbolDocs
