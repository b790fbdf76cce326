import SiteModules.Distribution

namespace SiteModules

def siteDirectory : String := ".docsite"

namespace Locator

def logger : String := "docsite_modules.module_resolution.sources"

def workspace (dir : Path) : Path := (dir.child siteDirectory).child "modules"

/-- Scoped packages are never installed. -/
def installed (h : Host) (name : String) : Traced (Option Path) := do
  if PackageName.isScoped name.toList then return none
  match ← Traced.ofFault (Distribution.find h name) with
  | none => return none
  | some d => return some (← d.directory h)

def locate (h : Host) (name : String) (dir : Path) : Traced String := do
  let place := (workspace dir).child name
  if ← h.isDirectory place then
    debug logger ("[module:locate] " ++ name ++ " -> workspace (" ++ place.toString ++ ")")
    return place.toString
  else
    match ← installed h name with
    | some place => do
      debug logger ("[module:locate] " ++ name ++ " -> installed (" ++ place.toString ++ ")")
      return place.toString
    | none => do
      debug logger ("[module:locate] " ++ name ++ " -> specifier")
      return name

def shown : String := "PackageLocator(workspace, installed)"

end Locator

structure Defaults where
  kind : String
  bundled : List Path
  deriving DecidableEq, Repr

namespace Defaults

def searchPaths (d : Defaults) (dir : Path) : List Path :=
  (dir.child siteDirectory).child (d.kind ++ "s") :: d.bundled

def findIn (h : Host) (name : String) (dir : Path) : Traced (Option Path) := do
  if ← h.isDirectory (dir.child name) then return some (dir.child name)
  else if ← h.isFile (dir.child (name ++ ".py")) then return some (dir.child (name ++ ".py"))
  else return none

def findAmong (h : Host) (name : String) : List Path → Traced (Option Path)
  | [] => return none
  | dir :: rest => do
    match ← findIn h name dir with
    | some p => return some p
    | none => findAmong h name rest

def find (d : Defaults) (h : Host) (name : String) (dir : Path) : Traced (Option Path) :=
  findAmong h name (d.searchPaths dir)

def shown (d : Defaults) : String :=
  "DefaultModules(" ++ d.kind ++
    ", bundled=" ++ Manifest.quotedList (d.bundled.map Path.toString) ++
    ")"

@[simp] theorem findAmong_nil (h : Host) (name : String) :
    (findAmong h name []).result = .ok none := rfl

end Defaults

end SiteModules
