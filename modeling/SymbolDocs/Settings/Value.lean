import SymbolDocs.Number.Binary64
import SymbolDocs.Text.Quoted

namespace SymbolDocs.Settings

inductive Value where
  | empty
  | bool (value : Bool)
  | signed (value : Int)
  | unsigned (value : Nat)
  | float (value : Binary64)
  | string (value : String)
  | array (items : List Value)
  | table (fields : List (String × Value))
  deriving Inhabited, Repr

def Value.shown : Value → String
  | empty => "unit value"
  | bool true => "bool true"
  | bool false => "bool false"
  | signed n => s!"signed int `{n}`"
  | unsigned n => s!"unsigned int `{n}`"
  | float x => "float `" ++ x.text ++ "`"
  | string s => "string " ++ Text.quoted s
  | array _ => "sequence"
  | table _ => "map"

def field? (fields : List (String × α)) (key : String) : Option α :=
  (fields.find? fun f => f.1 == key).map (·.2)

def setField (fields : List (String × α)) (key : String) (a : α) : List (String × α) :=
  match fields with
  | [] => [(key, a)]
  | f :: fs => if f.1 = key then (key, a) :: fs else f :: setField fs key a

def meaningKey : String := "___figment_value_value"

def markKey : String := "___figment_value_id"

mutual

/-- What a value in a file means. A table with a value under `meaningKey` stands for that value,
whatever else it holds. -/
def Value.meaning? : Value → Option Value
  | .table fields => do
    let fields ← fieldMeanings? fields
    if (field? fields markKey).isSome then none
    else some ((field? fields meaningKey).getD (.table fields))
  | .array items => (itemMeanings? items).map .array
  | v => some v

def fieldMeanings? : List (String × Value) → Option (List (String × Value))
  | [] => some []
  | (key, v) :: rest => do
    let v ← v.meaning?
    return (key, v) :: (← fieldMeanings? rest)

def itemMeanings? : List Value → Option (List Value)
  | [] => some []
  | v :: rest => do
    let v ← v.meaning?
    return v :: (← itemMeanings? rest)

end

end SymbolDocs.Settings
