import SiteModules.FileTree
import SiteModules.Document.Fault
import SiteModules.Value

namespace SiteModules

/-- What a fault that code raises counts as, whatever the name of its own class. -/
inductive Family
  | system
  | importing
  | loading
  | exit
  | other
  deriving DecidableEq, Repr

structure Raised where
  family : Family
  name : String
  text : String
  deriving DecidableEq, Repr

namespace Raised

def isSystem (r : Raised) : Bool := r.family == .system

def isImport (r : Raised) : Bool := r.family == .importing

def isLoading (r : Raised) : Bool := r.family == .loading

def isExit (r : Raised) : Bool := r.family == .exit

end Raised

inductive Format
  | toml
  | json
  | yaml
  deriving DecidableEq, Repr

inductive Misfit
  | notTable
  | notList
  | badRow
  | wideField
  | badSize
  | blankNames
  | keyNotText
  | badValue
  deriving DecidableEq, Repr

inductive Fault
  | file (f : FileFault)
  | notUtf8
  | document (format : Format) (f : DocumentFault)
  | misfit (m : Misfit)
  | noModule
  | noName
  | raised (r : Raised)
  | emptyKind
  | unknownTypeName (name : String)
  | unsupportedType (shown : String)
  | badSettings
  | reservedField
  | badLevel

namespace Fault

def isSystem : Fault → Bool
  | .file .holdsNul => false
  | .file _ => true
  | .raised r => r.isSystem
  | _ => false

def isImport : Fault → Bool
  | .noModule => true
  | .raised r => r.isImport
  | _ => false

def isLoading : Fault → Bool
  | .raised r => r.isLoading
  | _ => false

def isExit : Fault → Bool
  | .raised r => r.isExit
  | _ => false

def text? : Fault → Option String
  | .raised r => if r.isSystem || r.isImport then none else some r.text
  | .emptyKind => some "Module kind must be a non-empty string"
  | .unknownTypeName name => some (name ++ " is not a valid ValueType")
  | .unsupportedType shown => some ("Unsupported value type: " ++ shown)
  | _ => none

end Fault

inductive Failure
  | unsupported (request : Value) (kind : String) (allowed : List String)
  | notFound (request kind : String) (candidates : List String)
  | invalidPath (request reason : String)
  | resolution (headline : String) (cause : Option Fault)
  | manifest (headline : String) (cause : Option Fault)
  | load (headline : String) (cause : Option Fault)
  | fault (f : Fault)

namespace Failure

def numbered (from' : Nat) : List String → List String
  | [] => []
  | name :: rest => ("  " ++ toString from' ++ ". " ++ name) :: numbered (from' + 1) rest

def unsupportedText (request : Value) (kind : String) (allowed : List String) : String :=
  "Unsupported " ++ kind ++ " request of type '" ++ request.typeName.name ++
    "'\nAllowed value types: " ++ (if allowed.isEmpty then "(none)" else ", ".intercalate allowed)

def notFoundText (request kind : String) (candidates : List String) : String :=
  "Cannot resolve " ++ kind ++ " '" ++ request ++ "'\n\nResolution attempted:\n" ++
    "\n".intercalate (numbered 1 candidates) ++
    "\n\nSuggestions:\n  - Declare the package in your project dependencies\n" ++
    "  - Reference a local " ++ kind ++ " by path: ./path/to/" ++ kind

def withCause (headline : String) (cause : Option Fault) : String :=
  match cause.bind Fault.text? with
  | some text => headline ++ ": " ++ text
  | none => headline

def message : Failure → String
  | .unsupported request kind allowed => unsupportedText request kind allowed
  | .notFound request kind candidates => notFoundText request kind candidates
  | .invalidPath request reason => "Invalid module path '" ++ request ++ "': " ++ reason
  | .resolution headline cause => withCause headline cause
  | .manifest headline cause => withCause headline cause
  | .load headline cause => withCause headline cause
  | .fault (.raised r) => r.text
  | .fault f => f.text?.getD ""

def cause? : Failure → Option Fault
  | .resolution _ cause => cause
  | .manifest _ cause => cause
  | .load _ cause => cause
  | _ => none

def isCut (f : Failure) : Bool :=
  match f.cause? with
  | some c => c.text?.isNone
  | none => false

def isResolution : Failure → Bool
  | .load _ _ => false
  | .fault _ => false
  | _ => true

def isLoad : Failure → Bool
  | .load _ _ => true
  | _ => false

def system? : Failure → Option Fault
  | .fault f => if f.isSystem then some f else none
  | _ => none

end Failure

end SiteModules
