import SymbolDocs.Json.Basic
import SymbolDocs.Symbol.Basic

namespace SymbolDocs

def Json.ofOption (f : α → Json) : Option α → Json
  | none => .null
  | some a => f a

def Json.optionalString : Option String → Json :=
  .ofOption .string

namespace Description

mutual

def toJson : Description → Json
  | text contents => .object [("kind", .string "text"), ("contents", .string contents)]
  | paragraph contents =>
    .object [("kind", .string "paragraph"), ("contents", .array (toJsonAll contents))]
  | admonition style title contents =>
    .object [("kind", .string "admonition"), ("style", .string style), ("title", .string title),
      ("contents", toJson contents)]
  | parameter name type direction description =>
    .object [("kind", .string "parameter"), ("name", .string name),
      ("type", .optionalString type),
      ("direction", .ofOption (fun d => .string d.name) direction),
      ("description", toJson description)]
  | list title contents =>
    .object [("kind", .string "list"), ("title", .optionalString title),
      ("contents", .array (toJsonAll contents))]
  | returns title description =>
    .object [("kind", .string "return"), ("title", .string title),
      ("description", toJson description)]

def toJsonAll : List Description → List Json
  | [] => []
  | d :: ds => toJson d :: toJsonAll ds

end

end Description

def Location.toJson (l : Location) : Json :=
  .object [("file", .string l.file), ("line", .number l.line), ("column", .number l.column)]

def Parameter.toJson (p : Parameter) : Json :=
  .object [("type", .optionalString p.type), ("name", .optionalString p.name)]

def EnumValue.toJson (v : EnumValue) : Json :=
  .object [("name", .string v.name), ("initializer", .optionalString v.initializer),
    ("description", .ofOption Description.toJson v.description)]

namespace Symbol

mutual

def toJson : Symbol → Json
  | function f =>
    .object [("kind", .string "function"), ("type", .string f.type), ("name", .string f.name),
      ("parameters", .array (f.parameters.map Parameter.toJson)),
      ("description", .ofOption Description.toJson f.description),
      ("location", f.location.toJson)]
  | define d =>
    .object [("kind", .string "define"), ("name", .string d.name),
      ("parameters", .ofOption (fun ps => .array (ps.map Parameter.toJson)) d.parameters),
      ("value", .optionalString d.value),
      ("description", .ofOption Description.toJson d.description),
      ("location", d.location.toJson)]
  | enum e =>
    .object [("kind", .string "enum"), ("name", .string e.name),
      ("values", .array (e.values.map EnumValue.toJson)),
      ("description", .ofOption Description.toJson e.description),
      ("location", e.location.toJson)]
  | .variable v =>
    .object [("kind", .string "variable"), ("type", .string v.type), ("name", .string v.name),
      ("qualified_name", .string v.qualifiedName),
      ("initializer", .optionalString v.initializer),
      ("description", .ofOption Description.toJson v.description),
      ("location", v.location.toJson)]
  | compound head members =>
    .object [("kind", .string "compound"), ("type", .string head.type.name),
      ("name", .string head.name), ("title", .string head.title),
      ("members", .array (toJsonAll members)),
      ("description", .ofOption Description.toJson head.description),
      ("location", .ofOption Location.toJson head.location)]

def toJsonAll : List Symbol → List Json
  | [] => []
  | s :: ss => toJson s :: toJsonAll ss

end

end Symbol

end SymbolDocs
