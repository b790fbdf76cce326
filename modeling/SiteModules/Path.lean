import SiteModules.Text.Split

namespace SiteModules

/-- Exactly two slashes in front are kept apart from one; more count as one. -/
inductive Root
  | relative
  | single
  | double
  deriving DecidableEq, Repr

namespace Root

def chars : Root → List Char
  | .relative => []
  | .single => ['/']
  | .double => ['/', '/']

def ofChars : List Char → Root
  | '/' :: '/' :: '/' :: _ => .single
  | '/' :: '/' :: _ => .double
  | '/' :: _ => .single
  | _ => .relative

end Root

/-- The names of a path are not empty, not `.`, and free of slashes; `..` is a name like others. -/
structure Path where
  root : Root
  parts : List String
  deriving DecidableEq, Repr

namespace Path

def isName (cs : List Char) : Bool := cs != [] && cs != ['.']

def partsOf (cs : List Char) : List String :=
  ((Text.split '/' cs).filter isName).map String.ofList

def ofString (s : String) : Path := ⟨Root.ofChars s.toList, partsOf s.toList⟩

def chars (p : Path) : List Char :=
  match p.root, p.parts with
  | .relative, [] => ['.']
  | r, ps => r.chars ++ Text.join '/' (ps.map String.toList)

def toString (p : Path) : String := String.ofList p.chars

instance : ToString Path := ⟨toString⟩

def isAbsolute (p : Path) : Bool := p.root != .relative

def join (p q : Path) : Path :=
  if q.isAbsolute then q else ⟨p.root, p.parts ++ q.parts⟩

instance : Div Path := ⟨join⟩

def child (p : Path) (name : String) : Path := p.join (ofString name)

def name (p : Path) : String := p.parts.getLast?.getD ""

def parent (p : Path) : Path := ⟨p.root, p.parts.dropLast⟩

def withName (p : Path) (name : String) : Path := ⟨p.root, p.parts.dropLast ++ [name]⟩

def cutSuffix (cs : List Char) : List Char × List Char :=
  match Text.cut? '.' cs.reverse with
  | some (suffix, stem) =>
    if suffix = [] ∨ stem = [] then (cs, []) else (stem.reverse, '.' :: suffix.reverse)
  | none => (cs, [])

def stem (p : Path) : String := String.ofList (cutSuffix p.name.toList).1

def suffix (p : Path) : String := String.ofList (cutSuffix p.name.toList).2

/-- One more name after those in `done`, last first: `..` takes one back where it can. -/
def push (absolute : Bool) (done : List String) (name : String) : List String :=
  if name = ".." then
    match done with
    | [] => if absolute then [] else [".."]
    | last :: rest => if last = ".." then ".." :: done else rest
  else name :: done

def collapse (p : Path) : Path :=
  ⟨p.root, (p.parts.foldl (push p.isAbsolute) []).reverse⟩

def absolute (base p : Path) : Path := (base.join p).collapse

def canonical (base p : Path) : Path := { (absolute base p) with root := .single }

@[simp] theorem join_of_isAbsolute {p q : Path} (h : q.isAbsolute) : p.join q = q := by
  simp [join, h]

@[simp] theorem isAbsolute_collapse (p : Path) : p.collapse.isAbsolute = p.isAbsolute := rfl

@[simp] theorem isAbsolute_join (p q : Path) :
    (p.join q).isAbsolute = (p.isAbsolute || q.isAbsolute) := by
  unfold join
  split <;> simp_all [isAbsolute]

end Path

end SiteModules
