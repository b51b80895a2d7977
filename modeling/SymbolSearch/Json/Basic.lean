import SymbolSearch.OrderedMap

namespace SymbolSearch

/-- A structured value. Objects keep the order of their fields. A value made by a caller may also be
foreign to the format; such a value has no text. -/
inductive Json
  | null
  | bool (b : Bool)
  | int (n : Int)
  | real (x : Float)
  | string (s : String)
  | array (items : List Json)
  | object (fields : List (String × Json))
  | foreign

namespace Json

/-- The field of an object with the given name. -/
def field? (name : String) : Json → Option Json
  | .object fields => OrderedMap.get? name fields
  | _ => none

/-- The name of a value's type. -/
def typeName : Json → String
  | .null => "NoneType"
  | .bool _ => "bool"
  | .int _ => "int"
  | .real _ => "float"
  | .string _ => "str"
  | .array _ => "list"
  | .object _ => "dict"
  | .foreign => "object"

end Json

end SymbolSearch
