namespace SiteModules

inductive ValueKind
  | string
  | number
  | boolean
  | pattern
  | function
  | mapping
  | sequence
  deriving DecidableEq, Repr

namespace ValueKind

def name : ValueKind → String
  | .string => "string"
  | .number => "number"
  | .boolean => "boolean"
  | .pattern => "pattern"
  | .function => "function"
  | .mapping => "mapping"
  | .sequence => "sequence"

def all : List ValueKind :=
  [.string, .number, .boolean, .pattern, .function, .mapping, .sequence]

def named? (name : String) : Option ValueKind := all.find? (·.name == name)

@[simp] theorem named?_name (k : ValueKind) : named? k.name = some k := by cases k <;> decide

end ValueKind

inductive TypeName
  | none
  | bool
  | int
  | float
  | complex
  | text
  | bytes
  | buffer
  | list
  | tuple
  | set
  | frozenset
  | deque
  | range
  | mapping
  | orderedMapping
  | readOnlyMapping
  | pattern
  | function
  | moduleObject
  | record
  | type
  | kind
  | date
  | datetime
  | time
  | object
  | failure
  | declared (name : String) (callable : Bool)
  deriving DecidableEq, Repr

namespace TypeName

def name : TypeName → String
  | .none => "NoneType"
  | .bool => "bool"
  | .int => "int"
  | .float => "float"
  | .complex => "complex"
  | .text => "str"
  | .bytes => "bytes"
  | .buffer => "bytearray"
  | .list => "list"
  | .tuple => "tuple"
  | .set => "set"
  | .frozenset => "frozenset"
  | .deque => "deque"
  | .range => "range"
  | .mapping => "dict"
  | .orderedMapping => "OrderedDict"
  | .readOnlyMapping => "mappingproxy"
  | .pattern => "Pattern"
  | .function => "function"
  | .moduleObject => "module"
  | .record => "SimpleNamespace"
  | .type => "type"
  | .kind => "ValueType"
  | .date => "date"
  | .datetime => "datetime"
  | .time => "time"
  | .object => "object"
  | .failure => "Exception"
  | .declared name _ => name

def nameable : List TypeName :=
  [.text, .int, .float, .bool, .pattern, .mapping, .list, .tuple, .set, .frozenset, .bytes,
    .buffer, .range, .complex, .object, .none, .type, .function, .orderedMapping,
    .readOnlyMapping, .deque, .kind, .failure]

def shown : TypeName → String
  | .pattern => "<class 're.Pattern'>"
  | .orderedMapping => "<class 'collections.OrderedDict'>"
  | .deque => "<class 'collections.deque'>"
  | .record => "<class 'types.SimpleNamespace'>"
  | .kind => "<enum 'ValueType'>"
  | t => "<class '" ++ t.name ++ "'>"

/-- The kind that a type stands for; a truth value is no number here. -/
def kind? : TypeName → Option ValueKind
  | .bool => some .boolean
  | .text | .kind => some .string
  | .int | .float => some .number
  | .pattern => some .pattern
  | .mapping | .orderedMapping | .readOnlyMapping => some .mapping
  | .list | .tuple | .range | .deque | .bytes | .buffer => some .sequence
  | .type | .function => some .function
  | .declared _ callable => if callable then some .function else Option.none
  | _ => Option.none

end TypeName

end SiteModules
