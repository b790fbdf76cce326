import SiteModules.Document.Yaml
import SiteModules.Host
import SiteModules.Locator
import SiteModules.Settings.Merge
import SiteModules.Settings.Section

namespace SiteModules

namespace Settings

def logger : String := "docsite_modules.settings"

structure Scopes where
  user : Path
  project : Path
  machine : Path

def fileName : String := "settings.yaml"

namespace Scopes

def ofDirectory (h : Host) (dir : Option Path) (user : Option Path) : Scopes :=
  let dir := dir.getD (Path.ofString siteDirectory)
  ⟨user.getD ((h.home.child siteDirectory).child fileName), dir.child fileName,
    dir.child "settings.local.yaml"⟩

def ofProject (h : Host) (project : Path) : Scopes :=
  ofDirectory h (some (project.child siteDirectory)) none

def files (s : Scopes) : List Path := [s.user, s.project, s.machine]

end Scopes

/-- The data of a file; a fault of the file or its form is told apart from others. -/
def readDocument (h : Host) (p : Path) : Except Fault Value := do
  (Yaml.read (← h.readText p)).mapError (Fault.document .yaml)

def isForgiven (f : Fault) : Bool :=
  match f with
  | .document _ .malformed => true
  | f => f.isSystem

def unreadable (p : Path) : String := "Failed to read settings from " ++ p.toString

def readPresent (h : Host) (p : Path) : Traced Fields := do
  match readDocument h p with
  | .ok .null => return []
  | .ok (.mapping fields) => return fields
  | .ok _ => do
    warn logger ("Ignoring settings in " ++ p.toString ++ ": expected a mapping")
    return []
  | .error f =>
    if isForgiven f then
      warn logger (unreadable p)
      return []
    else .fail (.fault f)

def readScope (h : Host) (p : Path) : Traced Fields := do
  if ← h.exists? p then readPresent h p else return []

def readScopes (h : Host) : List Path → Traced (List Fields)
  | [] => return []
  | p :: rest => do
    let fields ← readScope h p
    return fields :: (← readScopes h rest)

def merged (h : Host) (s : Scopes) : Traced Fields := mergeAll <$> readScopes h s.files

def isAbsent : Value → Bool
  | .bytes bs => bs.isEmpty
  | v => v.isEmpty

def sectionOf (fields : Fields) : Traced Fields := do
  match Value.lookup? (.text "modules") fields with
  | none => return []
  | some (.mapping section') => return section'
  | some v =>
    if isAbsent v then return []
    else
      warn logger ("Ignoring 'modules' settings: expected a mapping, got " ++ v.typeName.name)
      return []

def withEnvironment (organization : Option String) (fields : Fields) : Fields :=
  match organization with
  | none => fields
  | some "" => fields
  | some name => Value.put (.text "organization") (.text name) fields

def invalidSection : String := "Invalid 'modules' settings, using defaults"

/-- The settings of a section, or those that hold anyway if it is not valid. -/
def ofSection (fields : Fields) : Traced Settings := do
  if !hasTextKeys fields then .fail (.fault (.misfit .keyNotText))
  else match ofFields? fields with
    | some s => return s
    | none => do
      warn logger invalidSection
      return initial

def read (h : Host) (s : Scopes) : Traced Settings := do
  let fields ← merged h s
  let fields ← sectionOf fields
  ofSection (withEnvironment h.organization fields)

def ofProject (h : Host) (project : Path) : Traced Settings := read h (.ofProject h project)

end Settings

end SiteModules
