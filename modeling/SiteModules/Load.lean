import SiteModules.Load.Code
import SiteModules.Load.Name
import SiteModules.Manifest

namespace SiteModules

/-- A module that has been loaded; a bare directory has no file. -/
structure Loaded where
  name : String
  file : Option String
  package : Bool
  /-- Tells the module from all others, those of the same name and file among them. -/
  serial : Nat
  deriving DecidableEq, Repr

def Loaded.toValue (m : Loaded) : Value := .moduleObject m.name m.file m.package []

structure ModuleTable where
  entries : List (String × Loaded)
  /-- No module that has been made so far has this serial, or a later one. -/
  fresh : Nat
  deriving DecidableEq, Repr

namespace ModuleTable

def empty : ModuleTable := ⟨[], 0⟩

def find? (t : ModuleTable) (name : String) : Option Loaded := t.entries.lookup name

def erase (t : ModuleTable) (name : String) : ModuleTable :=
  { t with entries := t.entries.filter fun (n, _) => n != name }

def insert (t : ModuleTable) (m : Loaded) : ModuleTable :=
  ⟨(m.name, m) :: (t.erase m.name).entries, max t.fresh (m.serial + 1)⟩

def privateNames (t : ModuleTable) : List String :=
  Manifest.sorted ((t.entries.map (·.1)).filter fun n =>
    ModuleName.privateStart.toList.isPrefixOf n.toList)

@[simp] theorem find?_insert_self (t : ModuleTable) (m : Loaded) :
    (t.insert m).find? m.name = some m := by
  simp [insert, find?]

end ModuleTable

abbrev Loader := Host → ModuleTable → String → Traced Value × ModuleTable

namespace Load

def logger : String := "docsite_modules.module_resolution.loader"

inductive CodeKind
  | native
  | source
  | compiled
  deriving DecidableEq, Repr

/-- The ends of the names of files of code, in the order in which such files are looked for. -/
def endings : List (String × CodeKind) :=
  [(".cpython-311-x86_64-linux-gnu.so", .native), (".abi3.so", .native), (".so", .native),
    (".py", .source), (".pyc", .compiled)]

def codeKind? (p : Path) : Option CodeKind :=
  (endings.find? fun (ending, _) => ending.toList.isSuffixOf p.chars).map Prod.snd

def isPackageFile (name : String) : Bool :=
  endings.any fun (ending, _) => name == "__init__" ++ ending

structure Target where
  path : Path
  name : String
  file : Path
  kind : CodeKind
  package : Bool

def fileName : String := "__init__.py"

def failure (text : String) (p : Path) : Failure := .load (text ++ p.toString) none

def directoryTarget (h : Host) (p : Path) : Traced Target := do
  if !(← h.isFile (p.child fileName)) then
    .fail (failure "Path does not contain a valid Python package: " p)
  else
    let name ← .ofFault (ModuleName.ofPath h p)
    return ⟨p, name, p.child fileName, .source, true⟩

def withSuffix (h : Host) (p : Path) : Traced Path := do
  let sibling := p.withName (p.name ++ ".py")
  if ← h.isFile p then return p
  else if p.suffix = ".py" then return p
  else if ← h.isFile sibling then return sibling
  else return p

def fileTarget (h : Host) (p : Path) : Traced Target := do
  let p ← withSuffix h p
  if !(← h.isFile p) then .fail (failure "Module path not found: " p)
  else
    let name ← .ofFault (ModuleName.ofPath h p)
    match codeKind? p with
    | some kind => return ⟨p, name, p, kind, isPackageFile p.name⟩
    | none => .fail (failure "Cannot load module from " p)

def target (h : Host) (p : Path) : Traced Target := do
  if ← h.isDirectory p then directoryTarget h p else fileTarget h p

def runAs (code : List UInt8 → ModuleCode) (h : Host) (file : Path) : Except Fault Unit := do
  match code (← (h.files.read h.cwd file).mapError Fault.file) with
  | .ends => return ()
  | .raises r => throw (.raised r)

def run (h : Host) (file : Path) : Except Fault Unit := runAs ModuleCode.ofBytes h file

def runCompiled (h : Host) (file : Path) (name : String) : Except Fault Unit :=
  runAs (ModuleCode.ofCompiled name) h file

/--
What comes of a file of code, which may change the modules that are loaded on the way, as code does
that imports others.
-/
structure Running where
  /-- A native library makes its module itself, before the name of the module is taken. -/
  create : Path → String → ModuleTable → Except Fault Nat × ModuleTable
  exec : CodeKind → Path → String → ModuleTable → Except Fault Unit × ModuleTable
  /-- Code may have said itself where the modules inside of a package lie, or have said nonsense. -/
  inner : ModuleTable → String → Option (Except Fault Path)
  /-- Asked for its text, what code has raised may raise something else. -/
  instead : Raised → Option Fault

namespace Running

def still (create : Path → String → Except Fault Unit)
    (exec : CodeKind → Path → String → Except Fault Unit) : Running where
  create file name t := ((create file name).map fun _ => t.fresh, t)
  exec kind file name t := (exec kind file name, t)
  inner _ _ := none
  instead _ := none

/-- Makes the module of a file; all but a native library have an empty one made for them. -/
def make (running : Running) (kind : CodeKind) (file : Path) (name : String) (t : ModuleTable) :
    Except Fault Nat × ModuleTable :=
  match kind with
  | .native => running.create file name t
  | _ => (.ok t.fresh, t)

def instead? (running : Running) : Fault → Option Fault
  | .raised r => running.instead r
  | _ => none

/-- A failure of loading, into whose message the text of its cause goes. -/
def report (running : Running) (headline : String) (f : Fault) : Failure :=
  match running.instead? f with
  | some g => .fault g
  | none => .load headline (some f)

def unlinked (file : Path) : Fault := .raised ⟨.importing, "ImportError", file.toString⟩

def ofHost (h : Host) : Running :=
  still (fun file _ => .error (unlinked file)) fun kind file name =>
    match kind with
    | .compiled => runCompiled h file name
    | _ => run h file

end Running

/--
Loads a module anew. Its name is taken before its code is run. If the code raises a fault, the name
is no longer taken, even if it was before; but what leaves the program leaves the name taken.
-/
def pathWith (running : Running) (h : Host) (t : ModuleTable) (p : Path) :
    Traced Loaded × ModuleTable :=
  let found := target h p
  match found.result with
  | .error e => (⟨found.events, .error e⟩, t)
  | .ok m =>
    match running.make m.kind m.file m.name t with
    | (.error e, t) => (⟨found.events, .error (.fault e)⟩, t)
    | (.ok serial, t) =>
      let loaded : Loaded := ⟨m.name, some m.file.toString, m.package, serial⟩
      match running.exec m.kind m.file m.name (t.insert loaded) with
      | (.error e, t) =>
        if e.isExit then (⟨found.events, .error (.fault e)⟩, t)
        else
          (⟨found.events,
            .error (running.report ("Failed to load module from " ++ m.path.toString) e)⟩,
            t.erase m.name)
      | (.ok (), t) =>
        (do
          let _ ← found
          debug logger ("[module:load] " ++ m.path.toString ++ " -> " ++ m.name)
          return loaded, t)

def path (h : Host) (t : ModuleTable) (p : Path) : Traced Loaded × ModuleTable :=
  pathWith (.ofHost h) h t p

inductive Found
  | code (kind : CodeKind) (file : Path) (package : Bool)
  | directory

def isFileAt (h : Host) (p : Path) : Bool := (h.files.isFile h.cwd p).toOption == some true

def isDirectoryAt (h : Host) (p : Path) : Bool :=
  (h.files.isDirectory h.cwd p).toOption == some true

def findCode (h : Host) (dir : Path) (name : String) : Option (CodeKind × Path) :=
  (endings.find? fun (ending, _) => isFileAt h (dir.child (name ++ ending))).map
    fun (ending, kind) => (kind, dir.child (name ++ ending))

/-- Nothing is found in a directory that cannot be listed. -/
def findIn (h : Host) (dir : Path) (name : String) : Option Found :=
  if !h.files.lists h.cwd dir then none
  else match findCode h (dir.child name) "__init__" with
    | some (kind, file) => some (.code kind file true)
    | none =>
      match findCode h dir name with
      | some (kind, file) => some (.code kind file false)
      | none => if isDirectoryAt h (dir.child name) then some .directory else none

def lost (name : String) : Fault := .raised ⟨.other, "KeyError", "'" ++ name ++ "'"⟩

/--
Loads a module of a directory under its full name, which is taken before its code is run. What the
code raises is passed on, and the name is then no longer taken.
-/
def one (running : Running) (h : Host) (dir : Path) (full name : String) (t : ModuleTable) :
    Except Fault Loaded × ModuleTable :=
  match findIn h dir name with
  | none => (.error .noModule, t)
  | some .directory =>
    let m : Loaded := ⟨full, none, true, t.fresh⟩
    (.ok m, t.insert m)
  | some (.code kind file package) =>
    match running.make kind file full t with
    | (.error e, t) => (.error e, t)
    | (.ok serial, t) =>
      match running.exec kind file full (t.insert ⟨full, some file.toString, package, serial⟩) with
      | (.error e, t) => (.error e, t.erase full)
      | (.ok (), t) =>
        match t.find? full with
        | some m => (.ok m, t)
        | none => (.error (lost full), t)

def dotted : List String → String
  | [] => ""
  | [name] => name
  | name :: next :: rest => dotted (next :: rest) ++ "." ++ name

def pathless (name : String) : Fault :=
  .raised ⟨.other, "AttributeError", "module '" ++ name ++ "' has no attribute '__path__'"⟩

/--
Where the modules inside of a package lie: next to its code, if this has not said otherwise. A bare
directory is looked up once more in the package around it, which has to be there still.
-/
def directoryOf (running : Running) (h : Host) (t : ModuleTable) : List String → Except Fault Path
  | [] => .ok h.packages
  | name :: above =>
    match t.find? (dotted (name :: above)) with
    | none => .error (lost (dotted (name :: above)))
    | some m =>
      if m.package then
        match running.inner t (dotted (name :: above)), m.file with
        | some place, _ => place
        | none, some file => .ok (Path.ofString file).parent
        | none, none => (directoryOf running h t above).map fun dir => dir.child name
      else .error (pathless m.name)

/--
Loads a module inside of one that has been loaded, unless it is loaded by then. The other one has to
hold modules, and to be there still when its module has been loaded.
-/
def inside (running : Running) (h : Host) (outer : Loaded) (name : String) (above : List String)
    (t : ModuleTable) : Except Fault Loaded × ModuleTable :=
  let full := dotted (name :: above)
  match t.find? full with
  | some m => (.ok m, t)
  | none =>
    if outer.package then
      match directoryOf running h t above with
      | .error e => (.error e, t)
      | .ok dir =>
        match one running h dir full name t with
        | (.error e, t) => (.error e, t)
        | (.ok m, t) =>
          if (t.find? (dotted above)).isSome then (.ok m, t) else (.error (lost (dotted above)), t)
    else (.error .noModule, t)

def chain (running : Running) (h : Host) :
    List String → ModuleTable → Except Fault Loaded × ModuleTable
  | [], t => (.error .noName, t)
  | [name], t =>
    match t.find? name with
    | some m => (.ok m, t)
    | none => one running h h.packages name name t
  | name :: next :: rest, t =>
    match t.find? (dotted (name :: next :: rest)) with
    | some m => (.ok m, t)
    | none =>
      match chain running h (next :: rest) t with
      | (.error e, t) => (.error e, t)
      | (.ok outer, t) => inside running h outer name (next :: rest) t

def specifierWith (running : Running) (h : Host) (t : ModuleTable) (entry : String) :
    Traced Loaded × ModuleTable :=
  let name := ModuleName.ofPackage entry
  let names := (ModuleName.parts entry.toList).map String.ofList
  match chain running h names.reverse t with
  | (.ok m, t) =>
    (do
      debug logger ("[module:load] " ++ entry ++ " -> " ++ name)
      return m, t)
  | (.error e, t) =>
    if e.isImport then
      (.fail (running.report ("Failed to import '" ++ entry ++ "' as '" ++ name ++ "'") e), t)
    else (.fail (.fault e), t)

def specifier (h : Host) (t : ModuleTable) (entry : String) : Traced Loaded × ModuleTable :=
  specifierWith (.ofHost h) h t entry

def entryWith (running : Running) (h : Host) (t : ModuleTable) (e : String) :
    Traced Loaded × ModuleTable :=
  if (Path.ofString e).isAbsolute then pathWith running h t (Path.ofString e)
  else specifierWith running h t e

/-- Loads an entry: an absolute path, or else the name of a package. -/
def entry (h : Host) (t : ModuleTable) (e : String) : Traced Loaded × ModuleTable :=
  if (Path.ofString e).isAbsolute then path h t (Path.ofString e) else specifier h t e

theorem entry_eq_entryWith (h : Host) (t : ModuleTable) (e : String) :
    entry h t e = entryWith (.ofHost h) h t e := rfl

def loader : Loader := fun h t e =>
  let (loaded, t) := entry h t e
  (Loaded.toValue <$> loaded, t)

def shown : String := "ImportLoader()"

end Load

end SiteModules
