import SiteModules.Descriptor
import SiteModules.Load
import SiteModules.Locator
import SiteModules.Naming
import SiteModules.Request
import SiteModules.Value.Accept

/-!
Resolvers: they turn the requests of a site's configuration into descriptors of modules. A request
names no module, is a module itself, is a path, or names a package. Of a package every name that
it may go by is tried, first among the declared dependencies and then among the default modules.
-/

namespace SiteModules

abbrev Declares := String → Except Failure Bool

structure Resolver where
  naming : Naming
  allowed : List ValueKind
  autoLoad : Bool
  cwd : Path
  manifest : Option Declares
  defaults : Defaults
  loader : Loader

namespace Resolver

structure Options where
  organization : String
  allowed : Option (List Value)
  autoLoad : Bool
  cwd : Option Path
  bundled : List Path
  manifest : Option Declares
  loader : Loader

def make (h : Host) (kind : String) (o : Options) : Except Fault Resolver := do
  if kind = "" then throw .emptyKind
  let allowed ← match o.allowed with
    | none => pure ValueKind.all
    | some named => named.mapM ValueKind.ofValue
  return {
    naming := .make kind o.organization
    allowed
    autoLoad := o.autoLoad
    cwd := h.absolute (o.cwd.getD h.cwdPath)
    manifest := o.manifest
    defaults := ⟨kind, o.bundled⟩
    loader := o.loader }

def kind (r : Resolver) : String := r.naming.kind

def allowedNames (r : Resolver) : List String := Manifest.sorted (r.allowed.map ValueKind.name)

def shown (r : Resolver) : String :=
  "ModuleResolver(kind=" ++ Text.Quoted.text r.kind ++ ", organization=" ++
    Text.Quoted.text r.naming.organization ++ ", auto_load=" ++ showBool r.autoLoad ++ ")"

def logger : String := "docsite_modules.module_resolution.resolver"

def say (r : Resolver) (text : String) : Traced Unit :=
  debug logger ("[module:resolve] " ++ r.kind ++ " " ++ text)

def checkPath (request : String) : Except Failure Unit :=
  let cs := request.toList
  if '\x00' ∈ cs then .error (.invalidPath request "contains a NUL byte")
  else if [] ∈ ((Text.split '/' cs).drop 1).dropLast then
    .error (.invalidPath request "contains an empty path segment")
  else .ok ()

def isPlainSegment (cs : List Char) : Bool := cs != [] && cs != ['.'] && cs != ['.', '.']

def checkName (request : String) : Except Failure Unit :=
  let cs := request.toList
  if '\x00' ∈ cs ∨ '\\' ∈ cs then .error (.invalidPath request "not a valid package name")
  else if (Text.split '/' cs).all isPlainSegment then .ok ()
  else .error (.invalidPath request "package names cannot contain empty, . or .. segments")

def accepts (r : Resolver) (v : Value) : Bool :=
  match v with
  | .moduleObject _ _ _ _ => true
  | v => match v.kind? with
    | some k => r.allowed.contains k
    | none => false

def findObject (r : Resolver) (v : Value) : Traced Descriptor := do
  if r.accepts v then
    r.say ("object (" ++ v.typeName.name ++ ")")
    return .ofEntry (.object v)
  else .fail (.unsupported v r.kind r.allowedNames)

def shortcutAt (r : Resolver) (request : String) : Option String :=
  let stem := (Path.ofString request).stem
  if stem = "" then none else some (r.naming.shortcut stem)

def findAbsolute (r : Resolver) (request : String) : Traced Descriptor := do
  .ofExcept (checkPath request)
  r.say (request ++ " -> absolute path")
  return ⟨some (.place request), none, r.shortcutAt request, none⟩

def findRelative (r : Resolver) (request : String) (base : Path) : Traced Descriptor := do
  .ofExcept (checkPath request)
  let place := (Path.absolute base (Path.ofString request)).toString
  r.say (request ++ " -> relative path (" ++ place ++ ")")
  return .ofEntry (.place place)

def ask (declares : Declares) (name : String) : Traced Bool :=
  ⟨[.asked name], declares name⟩

def declares (r : Resolver) (h : Host) (base : Path) : Traced Declares :=
  match r.manifest with
  | some d => return d
  | none => do
    let m ← Manifest.ofProject h base
    return fun name => .ok (m.declares name)

def tryName (r : Resolver) (h : Host) (request : String) (base : Path) (d : Declares)
    (name : String) : Traced (Option Descriptor) := do
  let shortcut := some (r.naming.shortcutOf request)
  if ← ask d name then
    let place ← Locator.locate h name base
    r.say (request ++ " -> dependency " ++ name)
    return some ⟨some (.place place), some name, shortcut, some true⟩
  else
    match ← r.defaults.find h name base with
    | some p => do
      r.say (request ++ " -> default " ++ name ++ " (" ++ p.toString ++ ")")
      return some ⟨some (.place p.toString), some name, shortcut, some false⟩
    | none => return none

def tryNames (r : Resolver) (h : Host) (request : String) (base : Path) (d : Declares) :
    List String → Traced (Option Descriptor)
  | [] => return none
  | name :: rest => do
    match ← r.tryName h request base d name with
    | some found => return some found
    | none => r.tryNames h request base d rest

/-- A fault of the file system while a package is looked for becomes a failure of resolution. -/
def probeFailure (r : Resolver) (request : String) (e : Failure) : Failure :=
  match e.system? with
  | some f => .resolution ("Failed to probe " ++ r.kind ++ " '" ++ request ++ "'") (some f)
  | none => e

def findPackage (r : Resolver) (h : Host) (request : String) (base : Path) : Traced Descriptor := do
  .ofExcept (checkName request)
  let names := r.naming.candidates request
  let found ← Traced.mapFailure (r.probeFailure request) do
    r.tryNames h request base (← r.declares h base) names
  match found with
  | some d => return d
  | none =>
    r.say (request ++ " -> not found (tried " ++ ", ".intercalate names ++ ")")
    .fail (.notFound request r.kind names)

/-- Puts a loaded module in the place of its entry, if the resolver loads and there is a place. -/
def finish (r : Resolver) (h : Host) (t : ModuleTable) (onFailure : Failure → Failure)
    (found : Traced Descriptor) : Traced Descriptor × ModuleTable :=
  match found.result with
  | .error _ => (found, t)
  | .ok d =>
    match d.place? with
    | none => (found, t)
    | some place =>
      if r.autoLoad then
        let (v, t) := r.loader h t place
        (do
          let _ ← found
          .event (.loading place)
          return { d with entry := some (.loaded (← v.mapFailure onFailure)) }, t)
      else (found, t)

def resolveObject (r : Resolver) (v : Value) : Traced Descriptor := r.findObject v

def resolveAbsolute (r : Resolver) (h : Host) (t : ModuleTable) (request : String) :
    Traced Descriptor × ModuleTable :=
  r.finish h t id (r.findAbsolute request)

def resolveRelative (r : Resolver) (h : Host) (t : ModuleTable) (request : String)
    (base : Path) : Traced Descriptor × ModuleTable :=
  r.finish h t id (r.findRelative request base)

def resolvePackage (r : Resolver) (h : Host) (t : ModuleTable) (request : String)
    (base : Path) : Traced Descriptor × ModuleTable :=
  r.finish h t (r.probeFailure request) (r.findPackage h request base)

def base (r : Resolver) (h : Host) (cwd : Option Path) : Path :=
  match cwd with
  | some p => h.absolute p
  | none => r.cwd

def resolve (r : Resolver) (h : Host) (t : ModuleTable) (request : Value) (cwd : Option Path) :
    Traced Descriptor × ModuleTable :=
  let text := request.text?.getD ""
  match request.shape with
  | .empty => (return .empty, t)
  | .object => (r.resolveObject request, t)
  | .absolutePath => r.resolveAbsolute h t text
  | .relativePath => r.resolveRelative h t text (r.base h cwd)
  | .packageName => r.resolvePackage h t text (r.base h cwd)

structure Label where
  name : Option String
  shortcut : Option String
  deriving DecidableEq, Repr

def Label.ofCanonical (c : Canonical) : Label := ⟨some c.name, some c.shortcut⟩

def part? (name : String) : Value → Option Value
  | .mapping fields => Value.lookup? (.text name) fields
  | v => v.attr? name

def word? (v : Option Value) : Option String :=
  match v.bind Value.text? with
  | some "" => none
  | found => found

/-- Text is a name; an object goes by its name, or else by its short name alone. -/
def label (r : Resolver) (request : Value) : Label :=
  match request.text? with
  | some s => .ofCanonical (r.naming.canonical s)
  | none =>
    match word? (part? "name" request), word? (part? "shortcut" request) with
    | some name, _ => .ofCanonical (r.naming.canonical name)
    | none, some short => ⟨some short, some short⟩
    | none, none => ⟨none, none⟩

end Resolver

end SiteModules
