import SiteModules.Value

namespace SiteModules

inductive RequestShape
  | empty
  | object
  | absolutePath
  | relativePath
  | packageName
  deriving DecidableEq, Repr

namespace RequestShape

def name : RequestShape → String
  | .empty => "empty"
  | .object => "object"
  | .absolutePath => "absolute-path"
  | .relativePath => "relative-path"
  | .packageName => "package-name"

def ofChars : List Char → RequestShape
  | '/' :: _ => .absolutePath
  | ['.'] => .relativePath
  | '.' :: '/' :: _ => .relativePath
  | ['.', '.'] => .relativePath
  | '.' :: '.' :: '/' :: _ => .relativePath
  | _ => .packageName

end RequestShape

def Value.shape (v : Value) : RequestShape :=
  if v.isEmpty then .empty
  else match v.text? with
    | some s => .ofChars s.toList
    | none => .object

theorem Value.shape_text {s : String} (h : s ≠ "") :
    (Value.text s).shape = .ofChars s.toList := by
  simp [Value.shape, Value.isEmpty, Value.text?, h]

end SiteModules
