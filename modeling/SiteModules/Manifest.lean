import SiteModules.Host
import SiteModules.Document.Json
import SiteModules.Document.Toml
import SiteModules.Text.Blank
import SiteModules.Text.Case
import SiteModules.Text.Quoted

namespace SiteModules

namespace PackageName

def isSeparator (c : Char) : Bool := c = '-' || c = '_' || c = '.'

def joinRuns (joint : Char) (inRun : Bool) : List Char → List Char
  | [] => []
  | c :: cs =>
    if isSeparator c then
      if inRun then joinRuns joint true cs else joint :: joinRuns joint true cs
    else c :: joinRuns joint false cs

def isScoped (cs : List Char) : Bool := cs.head? == some '@'

def normalChars (cs : List Char) : List Char :=
  if isScoped cs then Text.lower cs else joinRuns '-' false (Text.lower cs)

def normalize (name : String) : String := String.ofList (normalChars name.toList)

end PackageName

structure Manifest where
  names : List String

namespace Manifest

def sorted (names : List String) : List String := names.eraseDups.mergeSort (· ≤ ·)

def ofNames (names : List String) : Manifest := ⟨sorted (names.map PackageName.normalize)⟩

def declares (m : Manifest) (name : String) : Bool := m.names.contains (PackageName.normalize name)

def quotedList (names : List String) : String :=
  "[" ++ ", ".intercalate (names.map Text.Quoted.text) ++ "]"

def shown (m : Manifest) : String := "StaticManifest(" ++ quotedList m.names ++ ")"

def shownFor (dir : Path) : String := "ProjectManifest(" ++ dir.toString ++ ")"

def isNameStart (c : Char) : Bool :=
  ('A' ≤ c && c ≤ 'Z') || ('a' ≤ c && c ≤ 'z') || ('0' ≤ c && c ≤ '9')

def isNameChar (c : Char) : Bool := isNameStart c || PackageName.isSeparator c

/-- The package that a requirement is about: its first word if scoped, else its leading name. -/
def requirementName? (cs : List Char) : Option (List Char) :=
  if PackageName.isScoped cs then Text.firstWord? cs
  else match Text.trimStart cs with
    | [] => none
    | c :: rest => if isNameStart c then some (c :: rest.takeWhile isNameChar) else none

def elements : Value → Except Fault (List Value)
  | .list xs => .ok xs
  | .text s => .ok (s.toList.map fun c => .text (String.singleton c))
  | .mapping fields => .ok (fields.filterMap fun (k, _) => k.text?.map Value.text)
  | _ => .error (.misfit .notList)

def entryOr (missing : Value) (key : String) : Value → Except Fault Value
  | .mapping fields => .ok ((Value.lookup? (.text key) fields).getD missing)
  | _ => .error (.misfit .notTable)

def entryValues : Value → Except Fault (List Value)
  | .mapping fields => .ok (fields.map (·.2))
  | _ => .error (.misfit .notTable)

def emptyTable : Value := .mapping []

def emptyList : Value := .list []

def requirements (document : Value) : Except Fault (List Value) := do
  let project ← entryOr emptyTable "project" document
  let main ← elements (← entryOr emptyList "dependencies" project)
  let extras ← entryOr emptyTable "optional-dependencies" project
  let optional ← (← entryValues extras).mapM elements
  let tool ← entryOr emptyTable "tool" document
  let site ← entryOr emptyTable "docsite" tool
  let own ← elements (← entryOr emptyList "dependencies" site)
  return main ++ optional.flatten ++ own

/-- The packages that requirements are about; what is no text declares none. -/
def requiredNames (requirements : List Value) : List String :=
  requirements.filterMap fun
    | .text s => (requirementName? s.toList).map String.ofList
    | _ => none

def packageSections : List String := ["dependencies", "devDependencies"]

def sectionNames (document : List (Key × Value)) : List String :=
  packageSections.flatMap fun section' =>
    match Value.lookup? (.text section') document with
    | some (.mapping fields) => fields.filterMap fun (k, _) => k.text?
    | _ => []

def unreadable (p : Path) (cause : Option Fault) : Failure :=
  .manifest ("Failed to read " ++ p.toString) cause

def ofFault (p : Path) (f : Fault) : Failure :=
  match f with
  | .document _ .malformed => unreadable p (some f)
  | f => if f.isSystem then unreadable p (some f) else .fault f

def readRequirements (h : Host) (p : Path) : Except Failure (List String) := do
  let cs ← (h.readExact p).mapError (ofFault p)
  let document ← (Toml.read cs).mapError fun f => ofFault p (.document .toml f)
  return requiredNames (← (requirements document).mapError .fault)

def readSections (h : Host) (p : Path) : Except Failure (List String) := do
  let cs ← (h.readText p).mapError (ofFault p)
  match ← (Json.read cs).mapError fun f => ofFault p (.document .json f) with
  | .mapping fields => return sectionNames fields
  | _ => throw (.manifest ("Failed to read " ++ p.toString ++ ": expected a JSON object") none)

def readIfThere (h : Host) (p : Path) (read : Host → Path → Except Failure (List String)) :
    Traced (List String) := do
  if ← h.isFile p then .ofExcept (read h p) else return []

def logger : String := "docsite_modules.module_resolution.manifest"

def ofProject (h : Host) (dir : Path) : Traced Manifest := do
  let required ← readIfThere h (dir.child "pyproject.toml") readRequirements
  let packages ← readIfThere h (dir.child "package.json") readSections
  let m := ofNames (required ++ packages)
  debug logger ("[module:manifest] " ++ dir.toString ++ ": " ++ toString m.names.length ++
    " declared dependencies")
  return m

@[simp] theorem mem_sorted {name : String} {names : List String} :
    name ∈ sorted names ↔ name ∈ names := by
  simp [sorted]

theorem declares_ofNames {names : List String} {q : String} :
    (ofNames names).declares q = true ↔
      ∃ n ∈ names, PackageName.normalize n = PackageName.normalize q := by
  simp [declares, ofNames]

end Manifest

end SiteModules
