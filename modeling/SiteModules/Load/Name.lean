import SiteModules.Host
import SiteModules.Text.Digest
import SiteModules.Text.Word

namespace SiteModules

namespace ModuleName

def parts (cs : List Char) : List (List Char) :=
  (((Text.split '/' (cs.dropWhile (· = '@'))).filter (· != [])).map Text.underscored)

def importChars (cs : List Char) : List Char := Text.join '.' (parts cs)

/-- The name to import for a package: slashes become points, and signs become underscores. -/
def ofPackage (name : String) : String := String.ofList (importChars name.toList)

def privateStart : String := "_docsite_loaded_"

/--
The name for a module that lies at a path. It tells modules of different places apart, and never
is the name of an installed module.
-/
def ofPath (h : Host) (p : Path) : Except Fault String :=
  let place := (h.canonical p).chars
  if '\x00' ∈ place then .error (.file .holdsNul)
  else
    let stem := String.ofList (Text.underscored p.stem.toList)
    .ok (privateStart ++ stem ++ "_" ++ Text.Digest.short (Text.Utf8.encode place))

end ModuleName

end SiteModules
