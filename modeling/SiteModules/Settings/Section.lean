import SiteModules.Failure
import SiteModules.Text.Utf8

namespace SiteModules

structure Settings where
  organization : String
  bundledPaths : List String
  autoLoad : Option Bool
  deriving DecidableEq, Repr

namespace Settings

def initial : Settings := ⟨"docsite", [], none⟩

def text? : Value → Option String
  | .text s => some s
  | .kind k => some k.name
  | .bytes bs => (Text.Utf8.decode bs).map String.ofList
  | .buffer bs => (Text.Utf8.decode bs).map String.ofList
  | _ => none

def texts? : Value → Option (List String)
  | .list xs => xs.mapM text?
  | .tuple xs => xs.mapM text?
  | .set xs => xs.mapM text?
  | .frozenset xs => xs.mapM text?
  | .deque xs => xs.mapM text?
  | .range stop => if stop ≤ 0 then some [] else none
  | _ => none

def trueWords : List String := ["1", "t", "y", "on", "yes", "true"]

def falseWords : List String := ["0", "f", "n", "off", "no", "false"]

def wordTruth? (s : String) : Option Bool :=
  let w := s.toLower
  if trueWords.contains w then some true
  else if falseWords.contains w then some false
  else none

def truth? : Value → Option Bool
  | .bool b => some b
  | .int n => if n = 0 then some false else if n = 1 then some true else none
  | .float x => if x == 0.0 then some false else if x == 1.0 then some true else none
  | .text s => wordTruth? s
  | .kind k => wordTruth? k.name
  | .bytes bs => (Text.Utf8.decode bs).bind fun cs => wordTruth? (String.ofList cs)
  | _ => none

def choice? : Value → Option (Option Bool)
  | .null => some none
  | v => (truth? v).map some

/-- A field that is given has to be valid, and one that is not keeps its value. -/
def field? {α : Type} (read : Value → Option α) (missing : α) (name : String)
    (fields : List (Key × Value)) : Option α :=
  match Value.lookup? (.text name) fields with
  | none => some missing
  | some v => read v

def ofFields? (fields : List (Key × Value)) : Option Settings := do
  return ⟨← field? text? initial.organization "organization" fields,
    ← field? texts? initial.bundledPaths "bundled_paths" fields,
    ← field? choice? initial.autoLoad "auto_load" fields⟩

def hasTextKeys (fields : List (Key × Value)) : Bool := fields.all fun (k, _) => k.text?.isSome

end Settings

end SiteModules
