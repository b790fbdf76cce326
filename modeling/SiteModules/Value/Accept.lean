import SiteModules.Value.Display
import SiteModules.Failure
import SiteModules.Text.Case

namespace SiteModules

namespace ValueKind

def ofName (name : String) : Except Fault ValueKind :=
  let lowered := String.ofList (Text.lower name.toList)
  match named? lowered with
  | some k => .ok k
  | none => .error (.unknownTypeName (Text.Quoted.text lowered))

def ofValue : Value → Except Fault ValueKind
  | .kind k => .ok k
  | .text name => ofName name
  | .type t =>
    match t.kind? with
    | some k => .ok k
    | none => .error (.unsupportedType t.shown)
  | v => .error (.unsupportedType v.shown)

end ValueKind

end SiteModules
