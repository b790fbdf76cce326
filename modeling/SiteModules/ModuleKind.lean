import SiteModules.Resolver
import SiteModules.Settings

namespace SiteModules

inductive ModuleKind
  | plugin
  | theme
  | markdownIt
  deriving DecidableEq, Repr

namespace ModuleKind

def all : List ModuleKind := [.plugin, .theme, .markdownIt]

def name : ModuleKind → String
  | .plugin => "plugin"
  | .theme => "theme"
  | .markdownIt => "markdown-it"

def named? (name : String) : Option ModuleKind := all.find? (·.name == name)

def allowed : ModuleKind → List ValueKind
  | .plugin => [.string, .function, .mapping]
  | .theme => [.string]
  | .markdownIt => [.string, .function]

def loadsAtOnce : ModuleKind → Bool
  | .plugin => true
  | .theme => false
  | .markdownIt => true

/-- Packages for Markdown belong to no organization. -/
def organization (k : ModuleKind) (s : Settings) : String :=
  match k with
  | .markdownIt => ""
  | _ => s.organization

def bundled (project : Path) (s : Settings) : List Path :=
  s.bundledPaths.map fun p => project.join (Path.ofString p)

def options (k : ModuleKind) (project : Path) (s : Settings) : Resolver.Options where
  organization := k.organization s
  allowed := some (k.allowed.map Value.kind)
  autoLoad := s.autoLoad.getD k.loadsAtOnce
  cwd := some project
  bundled := bundled project s
  manifest := none
  loader := Load.loader

def resolver (k : ModuleKind) (h : Host) (project : Path) (s : Settings) :
    Except Fault Resolver :=
  Resolver.make h k.name (k.options project s)

def resolverOf (k : ModuleKind) (h : Host) (project : Path) : Traced Resolver := do
  let s ← Settings.ofProject h project
  .ofFault (k.resolver h project s)

@[simp] theorem named?_name (k : ModuleKind) : named? k.name = some k := by cases k <;> decide

theorem name_ne_empty (k : ModuleKind) : k.name ≠ "" := by cases k <;> decide

theorem head?_name_ne (k : ModuleKind) : k.name.toList.head? ≠ some '@' := by cases k <;> decide

end ModuleKind

end SiteModules
