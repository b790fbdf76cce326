import SiteModules.Text.Quoted
import SiteModules.Text.Split

/-!
How the packages of one kind of module are named. With the kind `theme` and the organization
`acme`, the module `dark` is called `dark`, `theme-dark`, `acme-theme-dark` or, under a scope of
its own, `@org/theme-dark`.
-/

namespace SiteModules

structure ScopedName where
  org : String
  name : String
  deriving DecidableEq, Repr

namespace ScopedName

/-- The one line that the text holds, if it holds one: it may end in a line feed. -/
def onlyLine? (cs : List Char) : Option (List Char) :=
  match Text.cut? '\n' cs with
  | none => some cs
  | some (line, []) => some line
  | some (_, _ :: _) => none

def split? : List Char → Option (List Char × List Char)
  | '@' :: cs => do
    let (org, rest) ← Text.cut? '/' cs
    let name ← onlyLine? rest
    if org = [] ∨ name = [] then none else some ('@' :: org, name)
  | _ => none

def ofChars (cs : List Char) : List Char × List Char := (split? cs).getD ([], cs)

def ofName (name : String) : ScopedName :=
  let (org, rest) := ofChars name.toList
  ⟨String.ofList org, String.ofList rest⟩

end ScopedName

/-- The names of one kind of module; `organization` is without leading `@`s, or empty. -/
structure Naming where
  kind : String
  organization : String
  deriving DecidableEq, Repr

structure Canonical where
  name : String
  shortcut : String
  deriving DecidableEq, Repr

namespace Naming

def dropAts (s : String) : String := String.ofList (s.toList.dropWhile (· = '@'))

def make (kind organization : String) : Naming := ⟨kind, dropAts organization⟩

def typePrefix (n : Naming) : String := n.kind ++ "-"

def fullPrefix (n : Naming) : String :=
  if n.organization = "" then n.typePrefix else n.organization ++ "-" ++ n.kind ++ "-"

def after? (start cs : List Char) : Option (List Char) :=
  match start.isPrefixOf? cs with
  | some (c :: rest) => some (c :: rest)
  | _ => none

/-- The name without the full prefix, else without the prefix of its kind. -/
def shortcut (n : Naming) (name : String) : String :=
  let cs := name.toList
  String.ofList <|
    ((after? n.fullPrefix.toList cs).orElse fun _ => after? n.typePrefix.toList cs).getD cs

def shortcutOf (n : Naming) (request : String) : String :=
  n.shortcut (ScopedName.ofName request).name

def underScope (n : Naming) (org short : String) : String := org ++ "/" ++ n.typePrefix ++ short

/-- A scoped request keeps its scope; any other takes the organization. -/
def canonical (n : Naming) (request : String) : Canonical :=
  let p := ScopedName.ofName request
  let short := n.shortcut p.name
  if p.org = "" then ⟨n.fullPrefix ++ short, short⟩ else ⟨n.underScope p.org short, short⟩

/--
The packages that a request may mean, the most specific first: in its own scope, of the
organization, of the kind alone, and the short name by itself.
-/
def candidates (n : Naming) (request : String) : List String :=
  let p := ScopedName.ofName request
  let short := n.shortcut p.name
  ((if p.org = "" then [] else [n.underScope p.org short]) ++
    (if n.organization = "" then [] else [n.fullPrefix ++ short]) ++
    [n.typePrefix ++ short, short]).eraseDups

def shown (n : Naming) : String :=
  "NamingRules(kind=" ++ Text.Quoted.text n.kind ++ ", organization=" ++
    Text.Quoted.text n.organization ++ ")"

@[simp] theorem kind_make (kind organization : String) : (make kind organization).kind = kind := rfl

@[simp] theorem shortcut_canonical (n : Naming) (request : String) :
    (n.canonical request).shortcut = n.shortcutOf request := by
  simp only [canonical, shortcutOf]
  split <;> rfl

end Naming

end SiteModules
