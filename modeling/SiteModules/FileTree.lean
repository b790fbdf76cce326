import SiteModules.Path
import SiteModules.Text.Utf8

/-!
A tree of files and directories, and what asking it about a path answers. Every path is followed
name by name from a directory that exists; a `..` goes to the directory above.
-/

namespace SiteModules

abbrev Place := List String

inductive Node
  | directory
  | file (content : List UInt8)
  deriving DecidableEq

inductive FileFault
  | missing
  | notDirectory
  | isDirectory
  | alreadyThere
  | nameTooLong
  | denied
  | holdsNul
  deriving DecidableEq, Repr

/-- What is done at a place: a directory is gone through, and anything is read or changed. -/
inductive Access
  | enter
  | read
  | change
  deriving DecidableEq, Repr

/-- What stands at each place; the root is there always, and the first entry for a place counts. -/
structure FileTree where
  entries : List (Place × Node)
  denials : List (Place × Access)

namespace FileTree

def empty : FileTree := ⟨[], []⟩

def node? (t : FileTree) (at' : Place) : Option Node :=
  if at' = [] then some .directory else t.entries.lookup at'

def allows (t : FileTree) (a : Access) (place : Place) : Bool := !t.denials.contains (place, a)

def nameLimit : Nat := 255

def pathLimit : Nat := 4096

def fitsName (name : String) : Bool := Text.Utf8.size name.toList ≤ nameLimit

def walk (t : FileTree) (start : Place) : List String → Except FileFault Place
  | [] => .ok start
  | name :: rest =>
    if !t.allows .enter start then .error .denied
    else if name = ".." then t.walk start.dropLast rest
    else if !fitsName name then .error .nameTooLong
    else match t.node? (start ++ [name]) with
      | none => .error .missing
      | some .directory => t.walk (start ++ [name]) rest
      | some (.file _) => if rest = [] then .ok (start ++ [name]) else .error .notDirectory

def checkPath (p : Path) : Except FileFault Unit :=
  let cs := p.chars
  if '\x00' ∈ cs then .error .holdsNul
  else if pathLimit ≤ Text.Utf8.size cs then .error .nameTooLong
  else .ok ()

def start (cwd : Place) (p : Path) : Place := if p.isAbsolute then [] else cwd

def locate (t : FileTree) (cwd : Place) (p : Path) : Except FileFault Place := do
  checkPath p
  t.walk (start cwd p) p.parts

def stat (t : FileTree) (cwd : Place) (p : Path) : Except FileFault Node := do
  let place ← t.locate cwd p
  match t.node? place with
  | some n => .ok n
  | none => .error .missing

/-- A question about a path. A name that is too long leaves it open, and so does a directory that is
barred. -/
def asks (t : FileTree) (cwd : Place) (p : Path) (yes : Node → Bool) : Except FileFault Bool :=
  match t.stat cwd p with
  | .ok n => .ok (yes n)
  | .error .nameTooLong => .error .nameTooLong
  | .error .denied => .error .denied
  | .error _ => .ok false

def isDirectory (t : FileTree) (cwd : Place) (p : Path) : Except FileFault Bool :=
  t.asks cwd p fun | .directory => true | .file _ => false

def isFile (t : FileTree) (cwd : Place) (p : Path) : Except FileFault Bool :=
  t.asks cwd p fun | .directory => false | .file _ => true

def exists? (t : FileTree) (cwd : Place) (p : Path) : Except FileFault Bool :=
  t.asks cwd p fun _ => true

def read (t : FileTree) (cwd : Place) (p : Path) : Except FileFault (List UInt8) := do
  let place ← t.locate cwd p
  match t.node? place with
  | none => .error .missing
  | some n =>
    if !t.allows .read place then .error .denied
    else match n with
      | .file content => .ok content
      | .directory => .error .isDirectory

def isBelow (top place : Place) : Bool := top.isPrefixOf place

def children (t : FileTree) (top : Place) : List String :=
  (t.entries.filterMap fun (place, _) => match top.isPrefixOf? place with
    | some [name] => some name
    | _ => none).eraseDups

def listed? (t : FileTree) (cwd : Place) (p : Path) : Option Place :=
  (t.locate cwd p).toOption.filter (t.allows .read)

def lists (t : FileTree) (cwd : Place) (p : Path) : Bool := (t.listed? cwd p).isSome

def listing (t : FileTree) (cwd : Place) (p : Path) : List String :=
  ((t.listed? cwd p).map t.children).getD []

def set (t : FileTree) (place : Place) (n : Node) : FileTree :=
  { t with entries := (place, n) :: t.entries }

def chain (place : Place) : List Place :=
  (List.range place.length).map fun i => place.take (i + 1)

def addDirectory (t : FileTree) (place : Place) : FileTree :=
  (chain place).foldl (fun t p => if t.node? p = some .directory then t else t.set p .directory) t

def addFile (t : FileTree) (place : Place) (content : List UInt8) : FileTree :=
  (t.addDirectory place.dropLast).set place (.file content)

def remove (t : FileTree) (place : Place) : FileTree :=
  { t with entries := t.entries.filter fun (p, _) => !isBelow place p }

def makeWalk (t : FileTree) (place : Place) : List String → Except FileFault FileTree
  | [] => .ok t
  | name :: rest =>
    if !t.allows .enter place then .error .denied
    else if name = ".." then t.makeWalk place.dropLast rest
    else if !fitsName name then .error .nameTooLong
    else match t.node? (place ++ [name]) with
      | none =>
        if !t.allows .change place then .error .denied
        else (t.set (place ++ [name]) .directory).makeWalk (place ++ [name]) rest
      | some .directory => t.makeWalk (place ++ [name]) rest
      | some (.file _) => .error (if rest = [] then .alreadyThere else .notDirectory)

def makeDirectories (t : FileTree) (cwd : Place) (p : Path) : Except FileFault FileTree := do
  checkPath p
  t.makeWalk (start cwd p) p.parts

def append (t : FileTree) (cwd : Place) (p : Path) (more : List UInt8) :
    Except FileFault FileTree := do
  match t.stat cwd p with
  | .ok (.file content) =>
    let place ← t.locate cwd p
    if t.allows .change place then return t.set place (.file (content ++ more)) else .error .denied
  | .ok .directory => .error .isDirectory
  | .error .missing =>
    match ← t.stat cwd p.parent with
    | .directory =>
      let above ← t.locate cwd p.parent
      if t.allows .change above then return t.set (above ++ [p.name]) (.file more)
      else .error .denied
    | .file _ => .error .notDirectory
  | .error e => .error e

@[simp] theorem walk_nil (t : FileTree) (at' : Place) : t.walk at' [] = .ok at' := by
  simp [walk]

end FileTree

end SiteModules
