import SymbolDocs.Text.Cut

namespace SymbolDocs

abbrev Environment := List (String × String)

namespace Environment

def get? (env : Environment) (name : String) : Option String :=
  (env.find? fun v => v.1 == name).map (·.2)

/-- What follows `name=` in the list of entries `NAME=value`. A name with a `=` in it finds the rest
of a value that begins as the name goes on. -/
def entry? (env : Environment) (name : String) : Option String :=
  env.findSome? fun (variable_, value) =>
    (Text.dropStart? (name ++ "=").toList (variable_ ++ "=" ++ value).toList).map String.ofList

def setNew? (env : Environment) (name value : String) : Option Environment :=
  if (env.get? name).isSome then some env
  else if value.toList.contains '\x00' then none
  else some (env ++ [(name, value)])

def set (env : Environment) (name value : String) : Environment :=
  match env with
  | [] => [(name, value)]
  | v :: rest => if v.1 = name then (name, value) :: rest else v :: set rest name value

end Environment

end SymbolDocs
